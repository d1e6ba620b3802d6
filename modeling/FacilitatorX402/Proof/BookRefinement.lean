import FacilitatorX402.Proof.BookPhases
import FacilitatorX402.Proof.PaymentBook

/-!
# Verifications and settlements keep the book

Every interleaving of `verifyPayment` and `settlePayment` takes the tables from one book of promises to
another by its steps: a promise is entered under terms that were never entered before, and kept once, with
the fees of the settlement that keeps it. What the calls reply is then an entry of the book.
-/

namespace FacilitatorX402

open Interact PromiseBook

namespace Payment

/-- The fees that a configuration gives for these terms. -/
def Terms.fees (host : Host) (config : FacilitatorConfig) (referralCode : Option String) (terms : Terms) :
    FeeBreakdown :=
  (createFeeEngine config.platformFeeBps config.developerShareBps none none).compute host 0 terms.amount
    terms.payee referralCode 0

/-- A promise is kept by a settlement of its payment, with the fees of that settlement. -/
def paymentRules {ι : Type} (host : Host) (call : ι → PaymentCall) : Rules String Terms Payout where
  apart := Db.AuthorizedApart
  due id terms payout := ∃ who config req, call who = .settle config req ∧
    req.paymentRequestId = id ∧
    payout.feeAmount = (terms.fees host config req.referralCode).platformFee ∧
    payout.developerShare = (terms.fees host config req.referralCode).developerShare
  distinct payout payout' := payout.txHash ≠ payout'.txHash

/-! ### What a phase says of the tables -/

def Db.SettledWith (db : Db) (requestId txHash : String) : Prop :=
  ∃ entry payout, db.book requestId = some entry ∧ entry.kept = some payout ∧
    payout.txHash = txHash

/-- The rows are those of the payment that the call settles. -/
def PaymentCall.Reads (call : PaymentCall) (db : Db) (request : PaymentRequest)
    (verification : PaymentVerification) : Prop :=
  db.Joins request verification ∧ ∃ config req, call = .settle config req ∧
    request.id = req.paymentRequestId

namespace BookPhase

def row? : BookPhase → Option String
  | owns _ _ settlementId _ => some settlementId
  | paid _ _ settlementId _ _ => some settlementId
  | _ => none

def Holds (db : Db) (call : PaymentCall) : BookPhase → Prop
  | begun => True
  | read request verification => call.Reads db request verification
  | owns request verification settlementId _ =>
      call.Reads db request verification ∧ db.PendingRow settlementId request.id
  | paid request verification settlementId _ _ =>
      call.Reads db request verification ∧ db.PendingRow settlementId request.id
  | stored request verification =>
      ∃ entry, db.book request.id = some entry ∧ entry.terms = termsOf request verification
  | settled requestId txHash =>
      db.SettledWith requestId txHash ∧ ∃ config req, call = .settle config req ∧
        requestId = req.paymentRequestId
  | closed => True

theorem Holds.pending {db : Db} {call : PaymentCall} {phase : BookPhase} (h : phase.Holds db call)
    {request : PaymentRequest} {verification : PaymentVerification} {settlementId : String}
    (howns : phase.Owns request verification settlementId) :
    phase.row? = some settlementId ∧ call.Reads db request verification ∧
      db.PendingRow settlementId request.id := by
  cases howns with
  | owns => exact ⟨rfl, h⟩
  | paid => exact ⟨rfl, h⟩

end BookPhase

/-- Later tables keep what was read from earlier ones, except that one row may have been decided. -/
structure Db.Continues (db db' : Db) (touched : Option String) : Prop where
  joins : ∀ request verification, db.Joins request verification → db'.Joins request verification
  grows : db.book.Grows db'.book
  pending : ∀ settlementId requestId, touched ≠ some settlementId →
    db.PendingRow settlementId requestId → db'.PendingRow settlementId requestId

section Continues

variable {db db' : Db} {touched : Option String} {call : PaymentCall} {request : PaymentRequest}
  {verification : PaymentVerification}

theorem Db.Continues.refl (db : Db) (touched : Option String) : db.Continues db touched :=
  ⟨fun _ _ => id, .refl _, fun _ _ _ => id⟩

theorem PaymentCall.Reads.continues (h : call.Reads db request verification)
    (hcontinues : db.Continues db' touched) : call.Reads db' request verification :=
  ⟨hcontinues.joins request verification h.1, h.2⟩

/-- What a phase says stays true while the row that the call owns is not touched. -/
theorem BookPhase.Holds.continues {phase : BookPhase} (h : phase.Holds db call)
    (hcontinues : db.Continues db' touched)
    (hapart : ∀ settlementId, phase.row? = some settlementId → touched ≠ some settlementId) :
    phase.Holds db' call := by
  cases phase with
  | begun => trivial
  | read request verification => exact PaymentCall.Reads.continues h hcontinues
  | owns request verification settlementId sent =>
      exact ⟨h.1.continues hcontinues, hcontinues.pending _ _ (hapart settlementId rfl) h.2⟩
  | paid request verification settlementId transfer txHash =>
      exact ⟨h.1.continues hcontinues, hcontinues.pending _ _ (hapart settlementId rfl) h.2⟩
  | stored request verification =>
      obtain ⟨entry, hentry, hterms⟩ := h
      obtain ⟨entry', hentry', hbecomes⟩ := hcontinues.grows _ entry hentry
      exact ⟨entry', hentry', hbecomes.terms.trans hterms⟩
  | settled requestId txHash =>
      obtain ⟨⟨entry, payout, hentry, hkept, hhash⟩, hcall⟩ := h
      obtain ⟨entry', hentry', hbecomes⟩ := hcontinues.grows _ entry hentry
      exact ⟨⟨entry', payout, hentry', hbecomes.kept payout hkept, hhash⟩, hcall⟩
  | closed => trivial

end Continues

/-! ### What one operation does -/

/-- One operation of a call: no step of the book or one, and what the call may then say. -/
structure BookMove {ι : Type} (host : Host) (call : ι → PaymentCall) (who : ι) (db db' : Db)
    (phase phase' : BookPhase) : Prop where
  sound : db'.Sound
  leads : Leads (paymentRules host call) db.book db'.book
  continues : db.Continues db' phase.row?
  holds : phase'.Holds db' (call who)
  row : ∀ settlementId, phase'.row? = some settlementId →
    phase.row? = some settlementId ∨ ∀ row ∈ db.settlements, row.id ≠ settlementId
  kept : ∀ id entry payout, db'.book id = some entry → entry.kept = some payout →
    db.book id = some entry ∨ ∃ request verification settlementId transfer,
      phase = .paid request verification settlementId transfer payout.txHash ∧ request.id = id ∧
        entry.terms = termsOf request verification

section Moves

variable {ι : Type} {faults : Faults} {host : Host} {registry : NetworkRegistry}
  {call : ι → PaymentCall} {who : ι} {db db' : Db} {phase phase' : BookPhase}
  {request : PaymentRequest} {verification : PaymentVerification}

/-- An operation that leaves the tables as they are, after which the call owns no other row. -/
theorem BookMove.of_eq (hsound : db.Sound) (hdb : db' = db) (hholds : phase'.Holds db (call who))
    (hrow : ∀ settlementId, phase'.row? = some settlementId → phase.row? = some settlementId) :
    BookMove host call who db db' phase phase' := by
  subst hdb
  exact ⟨hsound, .refl, .refl _ _, hholds, fun settlementId h => .inl (hrow settlementId h),
    fun _ _ _ hentry _ => .inl hentry⟩

/-- A verification that is stored, whether its call learns of it or not. -/
theorem BookMove.store (hsound : db.Sound) (hcan : db.canVerify request verification = true)
    (hrequest : verification.requestId = request.id) (hrow : phase'.row? = none)
    (hphase : phase' = .begun ∨ phase' = .stored request verification) :
    BookMove host call who db (db.createVerified request verification) .begun phase' := by
  have hbook := hsound.book_createVerified hcan hrequest
  have hstep : Step (paymentRules host call) db.book (db.createVerified request verification).book := by
    rw [hbook]
    exact .enter (Db.book_fresh hcan) fun other entry => Db.apart_of_canVerify hcan
  refine ⟨hsound.createVerified hcan hrequest, .single hstep, ⟨?_, hstep.grows, fun _ _ _ => id⟩, ?_, ?_,
    ?_⟩
  · intro request' verification' hjoins
    exact hjoins.createVerified request verification
  · rcases hphase with rfl | rfl
    · trivial
    · exact ⟨_, (congrFun hbook request.id).trans (Book.enter_self _ _), rfl⟩
  · intro settlementId hsome
    rw [hrow] at hsome
    cases hsome
  · intro id entry payout hentry hkept
    rw [hbook] at hentry
    exact .inl (Book.eq_of_enter _ _ hentry hkept)

theorem BookMove.create (hsound : db.Sound) {row : PaymentSettlement}
    (hfresh : ∀ other ∈ db.settlements, other.id ≠ row.id) (hstatus : row.settlementStatus = .pending)
    (hreads : (call who).Reads db request verification) (hrequest : row.requestId = request.id)
    (hphase : phase' = .closed ∨ phase' = .owns request verification row.id none) :
    BookMove host call who db (db.createSettlement row) (.read request verification) phase' := by
  have hbook : (db.createSettlement row).book = db.book := Db.book_createSettlement hstatus
  have hcontinues : db.Continues (db.createSettlement row) none :=
    ⟨fun _ _ => id, hbook ▸ .refl _, fun _ _ _ hpending =>
      hpending.of_mem fun other hother _ => List.mem_append_left _ hother⟩
  refine ⟨hsound.createSettlement hreads.1.1 hfresh hrequest hstatus, hbook ▸ .refl, hcontinues, ?_, ?_,
    fun _ _ _ hentry _ => .inl (hbook ▸ hentry)⟩
  · rcases hphase with rfl | rfl
    · trivial
    · exact ⟨hreads.continues hcontinues, row, List.mem_append_right _ (List.mem_singleton_self _), rfl,
        hrequest, hstatus⟩
  · rcases hphase with rfl | rfl
    · exact nofun
    · intro settlementId hsome
      obtain rfl := Option.some.inj hsome
      exact .inr hfresh

theorem BookMove.fail (hsound : db.Sound) (hholds : phase.Holds db (call who)) {settlementId : String}
    (howns : phase.Owns request verification settlementId) :
    BookMove host call who db (db.updateSettlement settlementId (·.fail)) phase .closed := by
  obtain ⟨hrow, -, hpending⟩ := hholds.pending howns
  have hbook := hsound.book_failSettlement hpending
  refine ⟨hsound.failSettlement hpending, hbook ▸ .refl, ⟨fun _ _ => id, hbook ▸ .refl _, ?_⟩, trivial,
    nofun, fun _ _ _ hentry _ => .inl (hbook ▸ hentry)⟩
  intro other requestId hother hpending'
  refine hpending'.of_mem fun row hmem hid => KeyedRows.mem_update_of_ne hmem ?_
  rw [hid]
  rintro rfl
  exact hother hrow

theorem BookMove.confirm (hsound : db.Sound) {config : FacilitatorConfig} {req : SettleRequest}
    (hcall : call who = .settle config req) {settlementId receiptId : String}
    (hreads : (call who).Reads db request verification) (hpending : db.PendingRow settlementId request.id)
    {transfer : TransferCall} {onChainResult : OnChainResult} {confirmedAt : Nat} {data : Confirmation}
    (hdata : data = confirmation onChainResult
      (settlementFees (PaymentCall.deps host registry config) request req.referralCode) confirmedAt)
    (hcan : db.canConfirm settlementId data (settlementReceipt request req settlementId receiptId data)
      = true) :
    BookMove host call who db
      (db.confirmSettlement settlementId data
        (settlementReceipt request req settlementId receiptId data))
      (.paid request verification settlementId transfer onChainResult.txHash)
      (.settled req.paymentRequestId data.txHash) := by
  obtain ⟨hjoins, config', req', hcall', hid⟩ := hreads
  obtain ⟨rfl, rfl⟩ := PaymentCall.settle.inj (hcall.symm.trans hcall')
  have hpending' : db.PendingRow settlementId req.paymentRequestId := hid ▸ hpending
  have hbook := hsound.book_confirmSettlement hpending' hcan hjoins hid
  have hopen : db.confirmedRow request.id = none := hid ▸ hsound.confirmedRow_of_canConfirm hcan
  have hentered : db.book request.id = some ⟨termsOf request verification, none⟩ := by
    rw [hsound.book_of_joins hjoins, hopen]
    rfl
  have hdue : (paymentRules host call).due request.id (termsOf request verification)
      (data.payout settlementId) := by
    refine ⟨who, config, req, hcall, hid.symm, ?_, ?_⟩
    · rw [hdata]
      rfl
    · rw [hdata]
      rfl
  have hstep : Step (paymentRules host call) db.book (db.confirmSettlement settlementId data
      (settlementReceipt request req settlementId receiptId data)).book := by
    rw [hbook]
    exact .keep hentered hdue fun other entry kept hentry hkept =>
      hsound.distinct_of_canConfirm hpending' hcan hentry hkept
  refine ⟨hsound.confirmSettlement hpending' hcan, .single hstep, ⟨fun _ _ => id, hstep.grows, ?_⟩, ?_,
    nofun, ?_⟩
  · intro other requestId hother hpendingOther
    refine hpendingOther.of_mem fun row hrow hrowId => KeyedRows.mem_update_of_ne hrow ?_
    rw [hrowId]
    rintro rfl
    exact hother rfl
  · have hkept : (db.confirmSettlement settlementId data
        (settlementReceipt request req settlementId receiptId data)).book req.paymentRequestId
          = some ⟨termsOf request verification, some (data.payout settlementId)⟩ := by
      rw [← hid, hbook, Book.keep_self]
    exact ⟨⟨_, _, hkept, rfl, rfl⟩, config, req, hcall, rfl⟩
  · intro id entry payout hentry hkept
    rw [hbook] at hentry
    rcases Book.cases_of_keep _ _ _ hentry hkept with hbefore | ⟨rfl, hterms, rfl⟩
    · exact .inl hbefore
    · refine .inr ⟨request, verification, settlementId, transfer, ?_, rfl, hterms⟩
      rw [hdata]
      rfl

theorem db_of_still {world world' : World ι} {op : Op} {outcome : Outcome}
    {answer : Except Err (interface.Ans op)} (hop : Op.Still op)
    (h : (machine ι faults).exec who world op outcome = some (answer, world')) :
    world'.db = world.db := by
  cases op with
  | redis command => exact (exec_redis h).2
  | chain op => exact (exec_chain h).2.1
  | now => rw [(exec_now h).1]
  | generateId => rw [(exec_generateId h).1]
  | _ => exact hop.elim

/-- Whatever a call may do in a phase is a move of the book. -/
theorem bookMove (hreported : faults.commitLost = false) {world world' : World ι} {op : Op}
    {outcome : Outcome} {answer : Except Err (interface.Ans op)} (hsound : world.db.Sound)
    (hholds : phase.Holds world.db (call who)) (hallowed : MayWrite host registry (call who) phase op)
    (hexec : (machine ι faults).exec who world op outcome = some (answer, world')) :
    BookMove host call who world.db world'.db phase (phase.next op answer) := by
  generalize hcall : call who = current at hallowed
  cases hallowed with
  | still hop =>
      rw [next_of_still hop answer]
      exact .of_eq hsound (db_of_still hop hexec) hholds fun _ => id
  | @store rawBody requestId request verification hstored =>
      obtain ⟨vreq, verificationId, -, rfl, rfl⟩ := hstored
      rcases exec_createVerified hexec with ⟨hcan, rfl⟩ | ⟨⟨error, rfl⟩, rfl⟩
      · rcases answer with error | stored
        · exact .store hsound hcan rfl rfl (.inl rfl)
        · exact .store hsound hcan rfl rfl (.inr rfl)
      · exact .of_eq hsound rfl trivial nofun
  | @find config req =>
      obtain ⟨rfl, hanswer | ⟨error, rfl⟩⟩ := exec_findPaymentRequest hexec
      · rcases answer with error | _ | ⟨request, _ | ⟨verification, verifications⟩⟩
        · exact .of_eq hsound rfl trivial nofun
        · exact .of_eq hsound rfl trivial nofun
        · exact .of_eq hsound rfl trivial nofun
        · obtain ⟨hjoins, hid⟩ := Db.joins_of_requestWithVerifications (Except.ok.inj hanswer).symm
          exact .of_eq hsound rfl ⟨hjoins, config, req, hcall, hid⟩ nofun
      · exact .of_eq hsound rfl trivial nofun
  | @check config req request verification =>
      obtain ⟨rfl, ⟨rfl, -⟩ | ⟨row, hrow, rfl⟩ | ⟨error, rfl⟩⟩ := exec_findConfirmedSettlement hexec
      · exact .of_eq hsound rfl hholds nofun
      · obtain ⟨hjoins, config', req', hcall', hid⟩ := hholds
        obtain ⟨rfl, rfl⟩ := PaymentCall.settle.inj (hcall.symm.trans hcall')
        obtain ⟨hmem, hboth⟩ := List.mem_filter.mp hrow
        have hconfirmed := (Db.confirmedRow_eq_some_iff hsound.coherent).mpr
          ⟨hmem, of_decide_eq_true hboth⟩
        have hentry := hsound.book_of_joins hjoins
        rw [hid, hconfirmed] at hentry
        exact .of_eq hsound rfl ⟨⟨_, _, hentry, rfl, rfl⟩, config, req, hcall, rfl⟩ nofun
      · exact .of_eq hsound rfl hholds nofun
  | @create config req request verification settlementId =>
      have hrequest : (pendingSettlement settlementId req).requestId = request.id := by
        obtain ⟨-, config', req', hcall', hid⟩ := hholds
        obtain ⟨rfl, rfl⟩ := PaymentCall.settle.inj (hcall.symm.trans hcall')
        exact hid.symm
      rcases exec_createSettlement hexec with ⟨hfresh, rfl⟩ | ⟨⟨error, rfl⟩, rfl⟩
      · rcases answer with error | created
        · exact .create hsound hfresh rfl hholds hrequest (.inl rfl)
        · exact .create hsound hfresh rfl hholds hrequest (.inr rfl)
      · exact .of_eq hsound rfl trivial nofun
  | @write config req request verification settlementId rpcUrl sent args hargs =>
      refine .of_eq hsound (exec_chain hexec).2.1 ?_ ?_
      · rcases answer with error | txHash
        · cases sent <;> exact hholds
        · exact hholds
      · rcases answer with error | txHash
        · cases sent <;> exact fun _ => id
        · exact fun _ => id
  | @wait config req request verification settlementId txHash transfer =>
      refine .of_eq hsound (exec_chain hexec).2.1 ?_ ?_
      · rcases answer with error | receipt
        · exact hholds
        · simp only [BookPhase.next]
          split <;> exact hholds
      · rcases answer with error | receipt
        · exact fun _ => id
        · simp only [BookPhase.next]
          split <;> exact fun _ => id
  | confirm hdata =>
      rcases exec_confirmSettlement hreported hexec with ⟨hcan, rfl, rfl⟩ | ⟨⟨error, rfl⟩, rfl⟩
      · exact .confirm hsound hcall hholds.1 hholds.2 hdata hcan
      · exact .of_eq hsound rfl hholds fun _ => id
  | @fail config req request verification settlementId phase howns =>
      have hclosed : phase.next (.failSettlement settlementId) answer = .closed := by
        cases howns with
        | @owns sent => cases sent <;> rfl
        | paid => rfl
      rw [hclosed]
      rcases exec_failSettlement hexec with rfl | ⟨⟨error, rfl⟩, rfl⟩
      · exact .fail hsound hholds howns
      · exact .of_eq hsound rfl trivial nofun

end Moves

/-! ### Runs -/

/-- The terms that a body signs. -/
def signedTerms (req : VerifyRequest) : Terms :=
  { payer := req.auth.from.text
    payee := req.auth.to.text
    network := req.network
    asset := req.asset
    amount := req.auth.value.value
    expiresAt := .ofSeconds req.auth.validBefore
    nonce := req.auth.nonce.text
    signatureHash := computeSignatureHash req.payload.signature.text }

section Runs

variable {ι : Type} {faults : Faults}

/-- Calls that have not begun, on tables that agree. -/
structure BookStart (host : Host) (registry : NetworkRegistry) (call : ι → PaymentCall)
    (cfg : Config (machine ι faults) PaymentReply) : Prop where
  calls : ∀ who, cfg.calls who = (call who).program host registry
  sound : cfg.world.db.Sound

/-- The tables agree and have grown from the book `origin` by its steps, and what the phases say of them
is true; no two calls own the same row. -/
structure BookInv (host : Host) (call : ι → PaymentCall) (origin : Book String Terms Payout)
    (cfg : Config (machine ι faults) PaymentReply) (phase : ι → BookPhase) : Prop where
  sound : cfg.world.db.Sound
  leads : Leads (paymentRules host call) origin cfg.world.db.book
  holds : ∀ who, (phase who).Holds cfg.world.db (call who)
  apart : ∀ who who' settlementId, (phase who).row? = some settlementId →
    (phase who').row? = some settlementId → who = who'

abbrev BookFollows (host : Host) (registry : NetworkRegistry) (call : ι → PaymentCall)
    (origin : Book String Terms Payout) (cfg : Config (machine ι faults) PaymentReply)
    (phase : ι → BookPhase) : Prop :=
  Config.Follows (fun who => bookCalls host registry (call who)) (fun who => Replies host (call who))
    (BookInv host call origin) cfg phase

theorem row_of_holds {db : Db} {call : PaymentCall} {phase : BookPhase} (h : phase.Holds db call)
    {settlementId : String} (hrow : phase.row? = some settlementId) :
    ∃ row ∈ db.settlements, row.id = settlementId := by
  cases phase with
  | owns request verification owned sent =>
      obtain rfl := Option.some.inj hrow
      obtain ⟨row, hmem, hid, -⟩ := h.2
      exact ⟨row, hmem, hid⟩
  | paid request verification owned transfer txHash =>
      obtain rfl := Option.some.inj hrow
      obtain ⟨row, hmem, hid, -⟩ := h.2
      exact ⟨row, hmem, hid⟩
  | _ => cases hrow

variable [DecidableEq ι] {host : Host} {registry : NetworkRegistry} {call : ι → PaymentCall}
  {origin : Book String Terms Payout} {start mid cfg : Config (machine ι faults) PaymentReply}

theorem BookInv.move {phase : ι → BookPhase} (h : BookInv host call origin cfg phase) {who : ι} {op : Op}
    {next : Except Err (interface.Ans op) → PaymentProgram PaymentReply}
    {answer : Except Err (interface.Ans op)} {world : World ι} {phase' : BookPhase}
    (hmove : BookMove host call who cfg.world.db world.db (phase who) phase') :
    BookInv host call origin (cfg.perform who op next answer world)
      (Function.update phase who phase') where
  sound := hmove.sound
  leads := h.leads.trans hmove.leads
  holds other := by
    by_cases heq : other = who
    · subst heq
      rw [Function.update_self]
      exact hmove.holds
    · rw [Function.update_of_ne heq]
      exact (h.holds other).continues hmove.continues fun settlementId hrow hmine =>
        heq (h.apart other who settlementId hrow hmine)
  apart := by
    -- a row that the call has come to own is new, or its own already
    have hothers : ∀ other settlementId, other ≠ who → phase'.row? = some settlementId →
        (phase other).row? = some settlementId → False := by
      intro other settlementId hne hrow hother
      rcases hmove.row settlementId hrow with hmine | hfresh
      · exact hne (h.apart other who settlementId hother hmine)
      · obtain ⟨row, hmem, hid⟩ := row_of_holds (h.holds other) hother
        exact hfresh row hmem hid
    intro one other settlementId hone hother
    by_cases heq : one = who
    · by_cases heq' : other = who
      · rw [heq, heq']
      · rw [heq, Function.update_self] at hone
        rw [Function.update_of_ne heq'] at hother
        exact (hothers other settlementId heq' hone hother).elim
    · rw [Function.update_of_ne heq] at hone
      by_cases heq' : other = who
      · rw [heq', Function.update_self] at hother
        exact (hothers one settlementId heq hother hone).elim
      · rw [Function.update_of_ne heq'] at hother
        exact h.apart one other settlementId hone hother

theorem preserved_book (hreported : faults.commitLost = false) :
    Config.Preserved (M := machine ι faults) (fun who => bookCalls host registry (call who))
      (fun who => Replies host (call who)) (BookInv host call origin) Config.anyStep where
  call _ _ who _ _ _ _ _ hfollows _ hallowed hexec _ :=
    ⟨_, rfl, hfollows.inv.move
      (bookMove hreported hfollows.inv.sound (hfollows.inv.holds who) hallowed hexec)⟩
  env cfg phase event world hfollows henv := by
    have hdb := machine_env_db henv
    have hinv := hfollows.inv
    exact ⟨hdb ▸ hinv.sound, hdb ▸ hinv.leads, hdb ▸ hinv.holds, hinv.apart⟩

omit [DecidableEq ι] in
theorem BookStart.follows (h : BookStart host registry call start) :
    BookFollows host registry call start.world.db.book start fun _ => .begun where
  sat who := by
    rw [h.calls who]
    exact books_call (call who)
  inv := ⟨h.sound, .refl, fun _ => trivial, fun _ _ _ => nofun⟩

omit [DecidableEq ι] in
/-- The book of any moment may be taken as the origin. -/
theorem BookInv.renew {phase : ι → BookPhase} (h : BookInv host call origin cfg phase) :
    BookInv host call cfg.world.db.book cfg phase :=
  ⟨h.sound, .refl, h.holds, h.apart⟩

omit [DecidableEq ι] in
/-- What a call replies to be verified is entered under the terms of its body. -/
theorem BookInv.entered {phase : ι → BookPhase} (h : BookInv host call origin cfg phase) {who : ι}
    {rawBody : Json} {vreq : VerifyRequest} {result : VerifyResult}
    (hcall : call who = .verify rawBody) (hparse : parseVerifyRequest rawBody = .ok vreq)
    (hreplies : Replies host (call who) (phase who) (.ok (.verified result))) :
    ∃ entry, cfg.world.db.book result.paymentRequestId = some entry ∧ entry.terms = signedTerms vreq := by
  obtain ⟨rawBody', request, verification, hcall', hphase, vreq', verificationId, hparse', rfl, rfl⟩ :=
    hreplies.verified result rfl
  obtain rfl := PaymentCall.verify.inj (hcall.symm.trans hcall')
  obtain rfl := Except.ok.inj (hparse.symm.trans hparse')
  have hholds := h.holds who
  rw [hphase] at hholds
  exact hholds

/-- **The payment book.** Between any two moments of any run of verifications and settlements the tables
move by steps of a book of promises. An accepted verification is entered there under the terms of its
body, and a payment that a call replies to be settled is kept there by the transaction of the reply. A
book that obeys the rules at the beginning obeys them at every moment. -/
theorem payments_keep_book (hreported : faults.commitLost = false)
    (hstart : BookStart host registry call start) (hmid : Config.Reachable Config.anyStep start mid)
    (hreach : Config.Reachable Config.anyStep mid cfg) :
    Leads (paymentRules host call) mid.world.db.book cfg.world.db.book ∧
      (∀ who rawBody vreq result, call who = .verify rawBody → parseVerifyRequest rawBody = .ok vreq →
        (cfg.calls who).result? = some (.ok (.verified result)) →
          ∃ entry, cfg.world.db.book result.paymentRequestId = some entry ∧ entry.terms = signedTerms vreq) ∧
      (∀ who config req result, call who = .settle config req →
        (cfg.calls who).result? = some (.ok (.settled (.settled result))) →
          cfg.world.db.SettledWith req.paymentRequestId result.txHash) ∧
      (start.world.db.book.Obeys (paymentRules host call) →
        cfg.world.db.book.Obeys (paymentRules host call)) := by
  obtain ⟨phase, hfollows⟩ := hmid.follows (preserved_book hreported) hstart.follows
  have hrenewed : BookFollows host registry call mid.world.db.book mid phase :=
    ⟨hfollows.sat, hfollows.inv.renew⟩
  obtain ⟨phase', hfollows'⟩ := hreach.follows (preserved_book hreported) hrenewed
  refine ⟨hfollows'.inv.leads, ?_, ?_, ?_⟩
  · intro who rawBody vreq result hcall hparse hresult
    exact hfollows'.inv.entered hcall hparse (hfollows'.of_result hresult)
  · intro who config req result hcall hresult
    have hholds := hfollows'.inv.holds who
    rw [(hfollows'.of_result hresult).settled result rfl] at hholds
    obtain ⟨hsettled, config', req', hcall', hid⟩ := hholds
    obtain ⟨rfl, rfl⟩ := PaymentCall.settle.inj (hcall.symm.trans hcall')
    rw [← hid]
    exact hsettled
  · exact fun hobeys => Leads.obeys (hfollows.inv.leads.trans hfollows'.inv.leads) hobeys

end Runs

/-- The payment that a call replies to be settled, with its transaction. -/
def settledReply (cfg : TwoCalls) (who : Fin 2) : Option String :=
  match (cfg.calls who).result? with
  | some (.ok (.settled (.settled result))) => some result.txHash
  | _ => none

theorem settled_of_settledReply {cfg : TwoCalls} {who : Fin 2} {txHash : String}
    (h : settledReply cfg who = some txHash) : ∃ result,
      (cfg.calls who).result? = some (.ok (.settled (.settled result))) ∧ result.txHash = txHash := by
  unfold settledReply at h
  split at h
  · rename_i result hresult
    exact ⟨result, hresult, Option.some.inj h⟩
  · cases h

theorem bookStart_paymentStart (validAfter : Nat) :
    BookStart trustingHost baseRegistry (paymentCall validAfter) (paymentStart validAfter) where
  calls := (paymentStart_start validAfter).calls
  sound :=
    { coherent := ⟨List.nodup_nil, nofun, List.nodup_nil, nofun, nofun⟩
      linked := (paymentStart_start validAfter).linked
      single := List.nodup_nil
      owned := nofun }

/-- A payment is verified, and then settled. -/
theorem exists_settledRun : ∃ cfg : TwoCalls, Config.Reachable Config.anyStep (paymentStart 0) cfg ∧
    acceptedId cfg 0 = some "req-0" ∧ settledReply cfg 1 = some "0xtx" ∧
    ((cfg.world.db.book "req-0").bind (·.kept)).map (·.txHash) = some "0xtx" := by
  obtain ⟨cfg, hreach, htest⟩ := Config.exists_reachable_of_run
    (show ((paymentStart 0).run (verifyThenSubmit 0 1 ++ [.call 1 (.text "0xtx"),
      .call 1 (.mined ⟨.success, 100, 60000⟩), .call 1 (.fate .done)] ++ confirmAndRelease 1 "rcp-0")).map
        (fun cfg => acceptedId cfg 0 = some "req-0" && settledReply cfg 1 = some "0xtx" &&
          ((cfg.world.db.book "req-0").bind (·.kept)).map (·.txHash) = some "0xtx") = some true by
            decide +kernel)
  simp only [Bool.and_eq_true, decide_eq_true_eq] at htest
  exact ⟨cfg, hreach, htest.1.1, htest.1.2, htest.2⟩

theorem payments_keep_book_once :
    ∃ cfg : TwoCalls, Leads (paymentRules trustingHost (paymentCall 0)) (fun _ => none) cfg.world.db.book ∧
      (∃ entry, cfg.world.db.book "req-0" = some entry ∧ entry.terms = signedTerms (firstPayment 0)) ∧
      cfg.world.db.SettledWith "req-0" "0xtx" ∧
      cfg.world.db.book.Obeys (paymentRules trustingHost (paymentCall 0)) := by
  obtain ⟨cfg, hreach, haccepts, hsettles, -⟩ := exists_settledRun
  obtain ⟨accepted, haccepted, hid⟩ := accepted_of_acceptedId haccepts
  obtain ⟨settled, hsettled, hhash⟩ := settled_of_settledReply hsettles
  obtain ⟨hleads, hentered, hkept, hobeys⟩ :=
    payments_keep_book rfl (bookStart_paymentStart 0) .refl hreach
  refine ⟨cfg, hleads, ?_, ?_, hobeys (obeys_empty _)⟩
  · rw [← hid]
    exact hentered 0 _ _ accepted rfl (parseVerifyRequest_toJson _) haccepted
  · rw [← hhash]
    exact hkept 1 _ _ settled rfl hsettled

end Payment

end FacilitatorX402
