import FacilitatorX402.Application.RunSettle
import FacilitatorX402.Proof.PaymentRules

/-!
# The stages of the service calls

Calls of `runVerify` and of `runSettle` in one deployment, as an automaton: which call may take or
delete which key, store or submit what, and where the answer leads. Both programs are held to it once.
-/

namespace FacilitatorX402

open Interact

namespace Service

/-- A call of either service. -/
inductive ServiceCall where
  | verify (raw : Json) (requestId : String)
  | settle (opts : SettleOpts)

inductive ServiceReply where
  | verified (response : VerifyResponse)
  | settled (response : SettleResponse)
  deriving DecidableEq

def ServiceCall.program (imports : Imports) : ServiceCall → ServiceProgram ServiceReply
  | verify raw requestId => do return .verified (← runVerify imports raw requestId)
  | settle opts => do return .settled (← runSettle imports opts)

/-- What the claims of a payment are made under. -/
structure PaymentClaim where
  nonce : String
  signatureHash : String
  deriving DecidableEq

/-- How far a call has come. A settlement keeps the verification it has read, and a verification the
row it has stored. -/
inductive Stage where
  | begun
  | stored (row : PaymentVerification)
  | read (row : PaymentVerification)
  | locked (row : PaymentVerification)
  | created (row : PaymentVerification)
  | submitted (row : PaymentVerification)

def Stage.next : Stage → (op : Op) → Except Err (interface.Ans op) → Stage
  | _, .createVerification row, .ok _ => stored row
  | _, .findAcceptedVerification _ _, .ok (some (row, _, _)) => read row
  | read row, .redis (.setNx (.settleServiceLock _)), .ok true => locked row
  | locked row, .createSettlement _ _ _, .ok _ => created row
  | locked row, .createSettlement _ _ _, .error _ => read row
  | created row, .chain (.submitOnChain _), _ => submitted row
  | stage, _, _ => stage

/-- The keys of a payment's claims. -/
def claimKey : Key → Prop
  | .nonce _ => True
  | .sig _ => True
  | _ => False

/-- The operations that leave every stage as it is. -/
def Op.Quiet : Op → Prop
  | .redis (.setNx key) => claimKey key
  | .redis (.del key) => claimKey key
  | .chain (.submitOnChain _) => False
  | .createVerification _ => False
  | .findAcceptedVerification _ _ => False
  | .createSettlement _ _ _ => False
  | _ => True

/-- The body passes the lookups of network and asset and the checks at some time, and its signature is
accepted. -/
def Signed (imports : Imports) (body : VerifyRequest) : Prop :=
  ∃ network asset nowSec sigResult,
    imports.networkRegistry.getNetworkByName body.network = some network ∧
    network.findAsset (imports.host.toUpperCase body.asset) = some asset ∧
    checkAuthorization imports.host body nowSec = .ok none ∧
    imports.verifyTransferAuthorization body.auth body.payload.signature.text asset network
      = .ok sigResult ∧ sigResult.valid = true

/-- Besides, the body expires on a date. -/
def Acceptable (imports : Imports) (body : VerifyRequest) : Prop :=
  Signed imports body ∧ (JsDate.ofSeconds body.auth.validBefore).isSome = true

/-- The row carries the nonce and the signature hash of the body. -/
def StoredFor (imports : Imports) (body : VerifyRequest) (row : PaymentVerification) : Prop :=
  row.nonce = some body.auth.nonce.text ∧
    row.signatureHash = some (hashSignature imports.host body.payload.signature.text)

/-- A call of `runVerify` only stores the claims of its body. A call of `runSettle` takes its lock
once it has read a verification, creates a row while it has the lock, submits what it has read once
the row is there, and deletes no lock before that. -/
def ServiceCall.Allowed (imports : Imports) (call : ServiceCall) (stage : Stage) (op : Op) : Prop :=
  op.Quiet ∨
  (∃ raw requestId body row, call = .verify raw requestId ∧ parseVerifyRequest raw = .ok body ∧
    StoredFor imports body row ∧ op = .createVerification row) ∨
  ∃ opts, call = .settle opts ∧
    (stage = .begun ∧ op = .findAcceptedVerification opts.verificationId opts.requestId ∨
    ∃ row,
      stage = .read row ∧ op = .redis (.setNx (lockKey opts.requestId)) ∨
      (stage = .locked row ∧
        ∃ id, op = .createSettlement id opts.requestId opts.referralCode) ∨
      (stage = .created row ∧ ∃ args, op = .chain (.submitOnChain args) ∧
        args.signature = "0x" ++ row.signatureHash.getD "null") ∨
      ((stage = .created row ∨ stage = .submitted row) ∧
        op = .redis (.del (lockKey opts.requestId))))

def serviceRules (imports : Imports) (call : ServiceCall) : Protocol interface Err Stage where
  allowed := call.Allowed imports
  trans stage op answer stage' := stage' = stage.next op answer

/-- An accepted verification was acceptable, and has stored the row of the id it returns. -/
def servicePost (imports : Imports) (call : ServiceCall) (stage : Stage)
    (outcome : Except Err ServiceReply) : Prop :=
  ∀ result, outcome = .ok (.verified (.accepted result)) → ∃ raw requestId body row,
    call = .verify raw requestId ∧ parseVerifyRequest raw = .ok body ∧ Acceptable imports body ∧
      StoredFor imports body row ∧ stage = .stored row ∧ row.id = result.verificationId

section Sat

variable {imports : Imports} {call : ServiceCall} {stage : Stage} {L : Type}

@[simp]
theorem sat_op {P : Protocol interface Err L} {phase : L} (op : Op)
    (post : L → Except Err op.Ans → Prop) :
    op.call.Sat P phase post ↔ P.allowed phase op ∧
      ∀ answer phase', P.trans phase op answer phase' → post phase' answer :=
  @Program.sat_call interface Err L P op phase post

theorem only_op {Q : Op → Prop} {op : Op} (h : Q op) : op.call.Only Q :=
  @Program.only_call interface Err Q op h

theorem sat_redisSetNx {P : Protocol interface Err L} {phase : L} (key : Key)
    (post : L → Except Err Bool → Prop) :
    (redisSetNx key).Sat P phase post ↔ P.allowed phase (.redis (.setNx key)) ∧
      ∀ (answer : Except Err Bool) (phase' : L),
        P.trans phase (.redis (.setNx key)) answer phase' → post phase' answer := by
  refine and_congr_right fun _ => forall_congr' fun answer => ?_
  cases answer <;> exact Iff.rfl

theorem sat_redisDel {P : Protocol interface Err L} {phase : L} (key : Key)
    (post : L → Except Err Unit → Prop) :
    (redisDel key).Sat P phase post ↔ P.allowed phase (.redis (.del key)) ∧
      ∀ (answer : Except Err Unit) (phase' : L),
        P.trans phase (.redis (.del key)) answer phase' → post phase' answer := by
  refine and_congr_right fun _ => forall_congr' fun answer => ?_
  cases answer <;> exact Iff.rfl

/-- The outcome of two programs of which either may come first. -/
def bothOutcomes {α β : Type} : Bool → Except Err α → Except Err β → Except Err (α × β)
  | _, .ok x, .ok y => .ok (x, y)
  | true, .error error, _ => .error error
  | true, .ok _, .error error => .error error
  | false, _, .error error => .error error
  | false, .error error, .ok _ => .error error

/-- Two programs run to their ends, in either order. -/
theorem sat_promiseAll {α β : Type} {P : Protocol interface Err L} {phase : L}
    (first : ServiceProgram α) (second : ServiceProgram β)
    (post : L → Except Err (α × β) → Prop) :
    (promiseAll first second).Sat P phase post ↔ P.allowed phase .race ∧
      ∀ (answer : Except Err Bool) (phase' : L), P.trans phase .race answer phase' →
        match answer with
        | .error error => post phase' (.error error)
        | .ok true => first.Sat P phase' fun phase x =>
            second.Sat P phase fun phase y => post phase (bothOutcomes true x y)
        | .ok false => second.Sat P phase' fun phase y =>
            first.Sat P phase fun phase x => post phase (bothOutcomes false x y) := by
  rw [promiseAll, Program.sat_bind', sat_op]
  refine and_congr_right fun _ => forall_congr' fun answer => forall_congr' fun phase' =>
    imp_congr_right fun _ => ?_
  have hfirst : ∀ (x : Except Err α) (y : Except Err β) (phase : L),
      ((do return (← Program.ofExcept x, ← Program.ofExcept y)) : ServiceProgram (α × β)).Sat P
        phase post ↔ post phase (bothOutcomes true x y) := by
    intro x y phase
    cases x <;> cases y <;> exact Iff.rfl
  have hsecond : ∀ (x : Except Err α) (y : Except Err β) (phase : L),
      ((do let y ← Program.ofExcept y; return (← Program.ofExcept x, y)) :
        ServiceProgram (α × β)).Sat P phase post ↔ post phase (bothOutcomes false x y) := by
    intro x y phase
    cases x <;> cases y <;> exact Iff.rfl
  rcases answer with error | _ | _
  · exact Iff.rfl
  · refine Iff.trans (Program.sat_bind' _ _ _ _) ((Program.sat_attempt _ _ _).trans ?_)
    refine ⟨fun h => h.mono fun phase y h => ?_, fun h => h.mono fun phase y h => ?_⟩
    · exact ((Program.sat_attempt _ _ _).mp ((Program.sat_bind' _ _ _ _).mp h)).mono
        fun phase x h => (hsecond x y phase).mp h
    · exact (Program.sat_bind' _ _ _ _).mpr ((Program.sat_attempt _ _ _).mpr
        (h.mono fun phase x h => (hsecond x y phase).mpr h))
  · refine Iff.trans (Program.sat_bind' _ _ _ _) ((Program.sat_attempt _ _ _).trans ?_)
    refine ⟨fun h => h.mono fun phase x h => ?_, fun h => h.mono fun phase x h => ?_⟩
    · exact ((Program.sat_attempt _ _ _).mp ((Program.sat_bind' _ _ _ _).mp h)).mono
        fun phase y h => (hfirst x y phase).mp h
    · exact (Program.sat_bind' _ _ _ _).mpr ((Program.sat_attempt _ _ _).mpr
        (h.mono fun phase y h => (hfirst x y phase).mpr h))

theorem only_redisSetNx {Q : Op → Prop} {key : Key} (h : Q (.redis (.setNx key))) :
    (redisSetNx key).Only Q := by
  refine ⟨h, fun answer => ?_⟩
  cases answer <;> trivial

theorem only_redisDel {Q : Op → Prop} {key : Key} (h : Q (.redis (.del key))) :
    (redisDel key).Only Q := by
  refine ⟨h, fun answer => ?_⟩
  cases answer <;> trivial

theorem only_promiseAll {α β : Type} {Q : Op → Prop} {first : ServiceProgram α}
    {second : ServiceProgram β} (hrace : Q .race) (hfirst : first.Only Q)
    (hsecond : second.Only Q) : (promiseAll first second).Only Q := by
  apply (only_op hrace).bind
  intro inOrder
  split
  · apply hfirst.attempt.bind
    intro x
    apply hsecond.attempt.bind
    intro y
    exact (Program.only_ofExcept x).bind fun _ => (Program.only_ofExcept y).bind fun _ => trivial
  · apply hsecond.attempt.bind
    intro y
    apply hfirst.attempt.bind
    intro x
    exact (Program.only_ofExcept y).bind fun _ => (Program.only_ofExcept x).bind fun _ => trivial

/-- A quiet operation is followed by the same stage. -/
theorem Op.Quiet.next_eq {op : Op} (h : op.Quiet) (stage : Stage)
    (answer : Except Err (interface.Ans op)) : stage.next op answer = stage := by
  cases op with
  | createVerification row => exact h.elim
  | findAcceptedVerification id requestId => exact h.elim
  | createSettlement id requestId referralCode => exact h.elim
  | redis command =>
      cases command with
      | setNx key =>
          cases key with
          | settleServiceLock requestId => exact h.elim
          | _ => cases stage <;> rfl
      | del key => cases stage <;> rfl
  | chain op =>
      cases op with
      | submitOnChain args => exact h.elim
      | _ => cases stage <;> rfl
  | _ => cases stage <;> rfl

theorem sat_quiet {α : Type} {program : ServiceProgram α} (h : program.Only Op.Quiet) :
    program.Sat (serviceRules imports call) stage fun stage' _ => stage' = stage := by
  apply h.sat
  · exact fun op hquiet => .inl hquiet
  · rintro op answer stage' hquiet rfl
    exact hquiet.next_eq stage answer

/-! ### `runVerify` keeps to the stages -/

theorem only_releaseNonceRedis (nonce signatureHash : String) :
    (releaseNonceRedis nonce signatureHash).Only Op.Quiet :=
  (only_promiseAll trivial (only_redisDel trivial) (only_redisDel trivial)).bind fun _ => trivial

theorem only_claimNonceRedis (nonce signatureHash : String) :
    (claimNonceRedis nonce signatureHash).Only Op.Quiet := by
  apply (only_promiseAll trivial (only_redisSetNx trivial) (only_redisSetNx trivial)).bind
  rintro ⟨nonceClaimed, sigClaimed⟩
  cases nonceClaimed with
  | false => trivial
  | true =>
      cases sigClaimed with
      | false => exact (only_redisDel trivial).bind fun _ => trivial
      | true => trivial

theorem only_checkReplayPostgres (nonce signatureHash : String) :
    (checkReplayPostgres nonce signatureHash).Only Op.Quiet := by
  apply (@only_op Op.Quiet (.findReplay nonce signatureHash) trivial).bind
  rintro (_ | existing)
  · trivial
  · dsimp only
    split <;> trivial

/-- A verification of this body is accepted only if it is acceptable, and with its row stored. -/
def VerifyPost (imports : Imports) (body : VerifyRequest) (stage : Stage)
    (outcome : Except Err VerifyResponse) : Prop :=
  ∀ result, outcome = .ok (.accepted result) → Acceptable imports body ∧ ∃ row,
    StoredFor imports body row ∧ stage = .stored row ∧ row.id = result.verificationId

/-- A refusal accepts nothing, so it meets what is promised of an acceptance. -/
theorem sat_refusal {post : VerifyAccepted → Stage → Prop} (requestId code message : String)
    (httpStatus : Nat) :
    (reject requestId code message httpStatus).Sat (serviceRules imports call) stage
      fun stage outcome => ∀ result, outcome = .ok (.accepted result) → post result stage := by
  rw [reject, dateNow, Program.sat_bind', sat_op]
  refine ⟨.inl trivial, ?_⟩
  rintro (error | rejectedAt) stage - <;> exact nofun

section Verify

variable {raw : Json} {requestId : String} {body : VerifyRequest}

theorem sat_persistVerification (hparse : parseVerifyRequest raw = .ok body)
    (network : NetworkConfig) (verdict : Verdict) :
    (persistVerification requestId body network verdict
      (hashSignature imports.host body.payload.signature.text) body.auth.nonce.text).Sat
      (serviceRules imports (.verify raw requestId)) stage fun stage outcome =>
        ∀ ids, outcome = .ok ids → ∃ row,
          StoredFor imports body row ∧ stage = .stored row ∧ row.id = ids.2 := by
  rw [persistVerification, Program.sat_bind']
  apply (sat_quiet (@only_op Op.Quiet (.findNetwork network.chainId) trivial)).mono
  rintro stage (error | _ | networkRecord) rfl
  · exact nofun
  · exact nofun
  rw [Program.thenSat_ok, Program.sat_bind']
  apply (sat_quiet (@only_op Op.Quiet
    (.upsertPaymentRequest (paymentRequestRow body requestId networkRecord.id)) trivial)).mono
  rintro stage (error | paymentRequest) rfl
  · exact nofun
  rw [Program.thenSat_ok, Program.sat_bind']
  apply (sat_quiet (@only_op Op.Quiet .generateId trivial)).mono
  rintro stage (error | verificationId) rfl
  · exact nofun
  rw [Program.thenSat_ok, createVerification, Program.sat_bind', sat_op]
  refine ⟨.inr (.inl ⟨raw, requestId, body, _, rfl, hparse, ⟨rfl, rfl⟩, rfl⟩), ?_⟩
  rintro (error | created) stage rfl
  · exact nofun
  · rintro ids hids
    cases hids
    exact ⟨_, ⟨rfl, rfl⟩, rfl, rfl⟩

/-- The response is accepted under the id of the row that was stored. -/
theorem sat_acceptedResponse (hsigned : Signed imports body) {row : PaymentVerification}
    (hrow : StoredFor imports body row) (paymentRequestId : String) :
    (acceptedResponse body requestId paymentRequestId row.id).Sat (serviceRules imports call)
      (.stored row) (VerifyPost imports body) := by
  unfold acceptedResponse
  split
  · exact nofun
  · rename_i expiresAt hdate
    have hacceptable : Acceptable imports body := by
      obtain ⟨expiry, hexpiry, -⟩ := Option.map_eq_some_iff.mp hdate
      exact ⟨hsigned, Option.isSome_of_eq_some hexpiry⟩
    rw [dateNow, Program.sat_bind', sat_op]
    refine ⟨.inl trivial, ?_⟩
    rintro (error | verifiedAt) stage rfl
    · exact nofun
    · rintro result hresult
      cases hresult
      exact ⟨hacceptable, row, hrow, rfl, rfl⟩

theorem sat_verifyAccepted (hparse : parseVerifyRequest raw = .ok body)
    (hsigned : Signed imports body) (network : NetworkConfig) :
    (verifyAccepted body requestId network
      (hashSignature imports.host body.payload.signature.text)).Sat
      (serviceRules imports (.verify raw requestId)) stage (VerifyPost imports body) := by
  rw [verifyAccepted, Program.sat_bind', Program.sat_tryCatch, Program.sat_bind']
  apply (sat_persistVerification hparse network _).mono
  rintro stage (error | ⟨paymentRequestId, verificationId⟩) hpost
  · change Program.Sat _ _ _ _
    rw [Program.sat_bind']
    apply (sat_quiet (only_releaseNonceRedis _ _)).mono
    rintro stage (error | released) rfl
    · exact nofun
    · exact sat_refusal _ _ _ _
  · obtain ⟨row, hrow, rfl, rfl⟩ := hpost _ rfl
    exact sat_acceptedResponse hsigned hrow paymentRequestId

theorem sat_verifySignature (hparse : parseVerifyRequest raw = .ok body) {network : NetworkConfig}
    {asset : AssetConfig} {nowSec : Nat}
    (hnetwork : imports.networkRegistry.getNetworkByName body.network = some network)
    (hasset : network.findAsset (imports.host.toUpperCase body.asset) = some asset)
    (hchecked : checkAuthorization imports.host body nowSec = .ok none) :
    (verifySignature imports network asset body requestId
      (hashSignature imports.host body.payload.signature.text)).Sat
      (serviceRules imports (.verify raw requestId)) stage (VerifyPost imports body) := by
  rw [verifySignature, Program.sat_bind', Program.sat_ofExcept]
  cases hverify : imports.verifyTransferAuthorization body.auth body.payload.signature.text asset
    network with
  | error error => exact nofun
  | ok sigResult =>
      rw [Program.thenSat_ok]
      split
      · rename_i hvalid
        exact sat_verifyAccepted hparse
          ⟨network, asset, nowSec, sigResult, hnetwork, hasset, hchecked, hverify, hvalid⟩ network
      · rw [Program.sat_bind']
        apply (sat_quiet (only_releaseNonceRedis _ _)).mono
        rintro stage (error | released) rfl
        · exact nofun
        rw [Program.thenSat_ok, Program.sat_bind']
        apply (sat_persistVerification hparse network _).mono
        rintro stage (error | ids) -
        · exact nofun
        · exact sat_refusal _ _ _ _

theorem sat_verifyClaimed (hparse : parseVerifyRequest raw = .ok body) {network : NetworkConfig}
    {asset : AssetConfig} {nowSec : Nat}
    (hnetwork : imports.networkRegistry.getNetworkByName body.network = some network)
    (hasset : network.findAsset (imports.host.toUpperCase body.asset) = some asset)
    (hchecked : checkAuthorization imports.host body nowSec = .ok none) :
    (verifyClaimed imports network asset body requestId).Sat
      (serviceRules imports (.verify raw requestId)) stage (VerifyPost imports body) := by
  rw [verifyClaimed, Program.sat_bind']
  apply (sat_quiet (only_claimNonceRedis _ _)).mono
  rintro stage (error | _ | reason) rfl
  · exact nofun
  · rw [Program.thenSat_ok, Program.sat_bind']
    apply (sat_quiet (only_checkReplayPostgres _ _)).mono
    rintro stage (error | _ | reason) rfl
    · exact nofun
    · exact sat_verifySignature hparse hnetwork hasset hchecked
    · rw [Program.thenSat_ok, Program.sat_bind']
      apply (sat_quiet (only_releaseNonceRedis _ _)).mono
      rintro stage (error | released) rfl
      · exact nofun
      · exact sat_refusal _ _ _ _
  · exact sat_refusal _ _ _ _

theorem sat_runVerify (raw : Json) (requestId : String) :
    (runVerify imports raw requestId).Sat (serviceRules imports (.verify raw requestId)) .begun
      fun stage outcome => ∀ result, outcome = .ok (.accepted result) → ∃ body row,
        parseVerifyRequest raw = .ok body ∧ Acceptable imports body ∧
          StoredFor imports body row ∧ stage = .stored row ∧ row.id = result.verificationId := by
  unfold runVerify parseX402Payload
  cases hparse : parseVerifyRequest raw with
  | error issues => exact sat_refusal _ _ _ _
  | ok body =>
      dsimp only [verifyParsed]
      split
      · exact sat_refusal _ _ _ _
      · rename_i network hnetwork
        split
        · exact sat_refusal _ _ _ _
        · rename_i asset hasset
          rw [verifyChecked, dateNow, Program.sat_bind', sat_op]
          refine ⟨.inl trivial, ?_⟩
          rintro (error | nowMs) stage rfl
          · exact nofun
          rw [Program.thenSat_ok, Program.sat_bind', Program.sat_ofExcept]
          rcases hchecked : checkAuthorization imports.host body (nowMs / 1000)
            with error | _ | ⟨code, message⟩
          · exact nofun
          · apply (sat_verifyClaimed hparse hnetwork hasset hchecked).mono
            intro stage outcome hpost result hresult
            obtain ⟨hacceptable, row, hrow, hstored, hid⟩ := hpost result hresult
            exact ⟨body, row, rfl, hacceptable, hrow, hstored, hid⟩
          · exact sat_refusal _ _ _ _

end Verify

/-! ### `runSettle` keeps to the stages -/

/-- What a call may do once its row is there: quiet operations, and the deletion of its lock. -/
def Op.Holding (requestId : String) (op : Op) : Prop :=
  op.Quiet ∨ op = .redis (.del (lockKey requestId))

section Settle

variable {opts : SettleOpts} {row : PaymentVerification}

theorem sat_holding {α : Type} {program : ServiceProgram α}
    (h : program.Only (Op.Holding opts.requestId))
    (hstage : stage = .created row ∨ stage = .submitted row) :
    program.Sat (serviceRules imports (.settle opts)) stage fun stage' _ => stage' = stage := by
  apply h.sat
  · rintro op (hquiet | rfl)
    · exact .inl hquiet
    · exact .inr (.inr ⟨opts, rfl, .inr ⟨row, .inr (.inr (.inr ⟨hstage, rfl⟩))⟩⟩)
  · rintro op answer stage' (hquiet | rfl) rfl
    · exact hquiet.next_eq stage answer
    · rcases hstage with rfl | rfl <;> rfl

theorem only_settleReject {Q : Op → Prop} (hnow : Q .now) (requestId code message : String)
    (httpStatus : Nat) : (settleReject requestId code message httpStatus).Only Q :=
  (only_op hnow).bind fun _ => trivial

theorem only_settleExisting {Q : Op → Prop} (hnow : Q .now) (requestId : String)
    (existing : PaymentSettlement) (receipt : Option PaymentReceipt) :
    (settleExisting requestId existing receipt).Only Q := by
  unfold settleExisting
  split
  · trivial
  · exact only_settleReject hnow _ _ _ _
  · exact only_settleReject hnow _ _ _ _
  · exact only_settleReject hnow _ _ _ _

theorem only_payee {Q : Op → Prop} (hseller : ∀ id, Q (.findSeller id))
    (paymentRequest : PaymentRequest) : (payee paymentRequest).Only Q := by
  simp only [payee]
  split
  · trivial
  · exact (only_op (hseller _)).bind fun _ => trivial

theorem only_settleSubmitted {Q : Op → Prop} (hnow : Q .now) (hid : Q .generateId)
    {settlementId : String} (hconfirm : ∀ data receipt,
      receipt.responsePayload.settlementId = settlementId →
        Q (.confirmSettlement settlementId data receipt))
    (hdel : Q (.redis (.del (lockKey opts.requestId)))) (paymentRequest : PaymentRequest)
    (network : NetworkConfig) (value : Int) (onChainResult : OnChainResult) :
    (settleSubmitted imports opts paymentRequest network value settlementId onChainResult).Only
      Q := by
  apply (only_op hnow).bind
  intro confirmedAt
  apply (only_op hid).bind
  intro receiptId
  apply (only_op (hconfirm _ _ rfl)).bind
  intro confirmed
  exact (only_redisDel hdel).bind fun _ => trivial

theorem only_settleFailure {Q : Op → Prop} (hnow : Q .now) {settlementId : String}
    (hfail : Q (.failSettlement settlementId)) (hdel : Q (.redis (.del (lockKey opts.requestId))))
    (err : Err) : (settleFailure opts settlementId err).Only Q := by
  apply (only_op hfail).ignoreErrors.bind
  intro failed
  apply (only_redisDel hdel).ignoreErrors.bind
  intro deleted
  exact only_settleReject hnow _ _ _ _

/-- The arguments carry the signature hash of the row as a signature. -/
theorem signature_submitArgs {paymentRequest : PaymentRequest} {network : NetworkConfig}
    {asset : AssetConfig} {value : Int} {recipient : Option String} {args : SubmitArgs}
    (h : submitArgs paymentRequest row network asset value recipient = .ok args) :
    args.signature = "0x" ++ row.signatureHash.getD "null" := by
  unfold submitArgs at h
  split at h
  · cases h
  · obtain rfl := Except.ok.inj h
    rfl

theorem sat_settleBody (paymentRequest : PaymentRequest) (networkRecord : Network)
    (settlementId : String) :
    (settleBody imports opts row paymentRequest networkRecord settlementId).Sat
      (serviceRules imports (.settle opts)) (.created row)
      fun stage _ => stage = .created row ∨ stage = .submitted row := by
  simp only [settleBody]
  split
  · exact .inl rfl
  rename_i network asset _
  rw [Program.sat_bind', Program.sat_ofExcept]
  cases grossAmount paymentRequest.amount with
  | error error => exact .inl rfl
  | ok value =>
      rw [Program.thenSat_ok, Program.sat_bind']
      apply (sat_quiet (only_payee (fun _ => trivial) paymentRequest)).mono
      rintro stage (error | recipient) rfl
      · exact .inl rfl
      rw [Program.thenSat_ok, Program.sat_bind', Program.sat_ofExcept]
      cases hargs : submitArgs paymentRequest row network asset value recipient with
      | error error => exact .inl rfl
      | ok args =>
          have hsubmit : (submit args).Sat (serviceRules imports (.settle opts)) (.created row)
              fun stage _ => stage = .submitted row := by
            rw [submit, Program.sat_lift]
            apply sat_submitOnChain args
            · exact .inr (.inr ⟨opts, rfl, .inr ⟨row, .inr (.inr (.inl
                ⟨rfl, args, rfl, signature_submitArgs hargs⟩))⟩⟩)
            · rintro answer stage ⟨answer', -, rfl⟩
              rfl
            · exact fun transfer => .inl trivial
            · exact fun rpcUrl txHash => .inl trivial
            · exact .inl trivial
            · rintro op answer stage ⟨answer', -, rfl⟩
              cases op <;> rfl
          rw [Program.thenSat_ok, Program.sat_bind']
          apply hsubmit.mono
          rintro stage (error | onChainResult) rfl
          · exact .inr rfl
          have hrest : (settleSubmitted imports opts paymentRequest network value settlementId
              onChainResult).Only (Op.Holding opts.requestId) :=
            only_settleSubmitted (.inl trivial) (.inl trivial) (fun _ _ _ => .inl trivial) (.inr rfl)
              paymentRequest network value onChainResult
          apply (sat_holding hrest (.inr rfl)).mono
          rintro stage outcome rfl
          exact .inr rfl

theorem sat_settleHolding (paymentRequest : PaymentRequest) (networkRecord : Network) :
    (settleHolding imports opts row paymentRequest networkRecord).Sat
      (serviceRules imports (.settle opts)) (.locked row) fun _ _ => True := by
  rw [settleHolding, Program.sat_bind']
  apply (sat_quiet (@only_op Op.Quiet .generateId trivial)).mono
  rintro stage (error | settlementId) rfl
  · trivial
  rw [Program.thenSat_ok, createSettlement, Program.sat_bind', sat_op]
  refine ⟨.inr (.inr ⟨opts, rfl, .inr ⟨row, .inr (.inl ⟨rfl, settlementId, rfl⟩)⟩⟩), ?_⟩
  rintro (error | created) stage rfl
  · trivial
  rw [Program.thenSat_ok, Program.sat_tryCatch]
  apply (sat_settleBody paymentRequest networkRecord settlementId).mono
  rintro stage (error | response) hstage
  · have hfailure : (settleFailure opts settlementId error).Only (Op.Holding opts.requestId) :=
      only_settleFailure (.inl trivial) (.inl trivial) (.inr rfl) error
    exact (sat_holding hfailure hstage).mono fun _ _ _ => trivial
  · trivial

theorem sat_runSettle (opts : SettleOpts) :
    (runSettle imports opts).Sat (serviceRules imports (.settle opts)) .begun
      fun _ _ => True := by
  rw [runSettle, findAcceptedVerification, Program.sat_bind', sat_op]
  refine ⟨.inr (.inr ⟨opts, rfl, .inl ⟨rfl, rfl⟩⟩), ?_⟩
  rintro (error | _ | ⟨row, paymentRequest, networkRecord⟩) stage rfl
  · trivial
  · exact (sat_quiet (only_settleReject trivial _ _ _ _)).mono fun _ _ _ => trivial
  change (settleAccepted imports opts row paymentRequest networkRecord).Sat _ _ _
  rw [settleAccepted, Program.sat_bind']
  apply (sat_quiet (@only_op Op.Quiet (.findSettlement opts.requestId) trivial)).mono
  rintro stage (error | _ | ⟨existing, receipt⟩) rfl
  · trivial
  · rw [Program.thenSat_ok, Program.sat_bind', sat_redisSetNx]
    refine ⟨.inr (.inr ⟨opts, rfl, .inr ⟨row, .inl ⟨rfl, rfl⟩⟩⟩), ?_⟩
    rintro (error | _ | _) stage rfl
    · trivial
    · exact (sat_quiet (only_settleReject trivial _ _ _ _)).mono fun _ _ _ => trivial
    · exact sat_settleHolding paymentRequest networkRecord
  · exact (sat_quiet (only_settleExisting trivial _ _ _)).mono fun _ _ _ => trivial

end Settle

theorem sat_serviceCall (call : ServiceCall) :
    (call.program imports).Sat (serviceRules imports call) .begun (servicePost imports call) := by
  cases call with
  | verify raw requestId =>
      rw [ServiceCall.program, Program.sat_bind']
      apply (sat_runVerify raw requestId).mono
      rintro stage (error | response) hpost
      · exact nofun
      · rintro result hresult
        obtain rfl := ServiceReply.verified.inj (Except.ok.inj hresult)
        obtain ⟨body, row, hbody⟩ := hpost result rfl
        exact ⟨raw, requestId, body, row, rfl, hbody⟩
  | settle opts =>
      rw [ServiceCall.program, Program.sat_bind']
      apply (sat_runSettle opts).mono
      rintro stage (error | response) - <;> exact nofun

end Sat

/-! ### Calls that have not begun -/

section Runs

variable {ι : Type} {faults : Faults}

structure ServiceStart (imports : ι → Imports) (call : ι → ServiceCall)
    (cfg : Config (machine ι faults) ServiceReply) : Prop where
  calls : ∀ who, cfg.calls who = (call who).program (imports who)
  history : cfg.history = []

/-- Every call is in a stage of its own, and the invariant holds. -/
abbrev ServiceFollows (imports : ι → Imports) (call : ι → ServiceCall)
    (Inv : Config (machine ι faults) ServiceReply → (ι → Stage) → Prop)
    (cfg : Config (machine ι faults) ServiceReply) (stage : ι → Stage) : Prop :=
  Config.Follows (fun who => serviceRules (imports who) (call who))
    (fun who => servicePost (imports who) (call who)) Inv cfg stage

variable {imports : ι → Imports} {call : ι → ServiceCall}
  {Inv : Config (machine ι faults) ServiceReply → (ι → Stage) → Prop}
  {start : Config (machine ι faults) ServiceReply}

theorem ServiceStart.follows (hstart : ServiceStart imports call start)
    (hinv : Inv start fun _ => .begun) : ServiceFollows imports call Inv start fun _ => .begun where
  sat who := by
    rw [hstart.calls]
    exact sat_serviceCall (call who)
  inv := hinv

end Runs

/-! ### Rows that stay decided -/

/-- A row keeps its request, and once it is decided its status. -/
def Stays (row row' : PaymentSettlement) : Prop :=
  row'.requestId = row.requestId ∧
    ∀ status, status = .confirmed ∨ status = .failed → row.settlementStatus = status →
      row'.settlementStatus = status

theorem Stays.refl (row : PaymentSettlement) : Stays row row := ⟨rfl, fun _ _ h => h⟩

theorem Stays.trans {row row' row'' : PaymentSettlement} (h : Stays row row') (h' : Stays row' row'') :
    Stays row row'' :=
  ⟨h'.1.trans h.1, fun status hstatus hrow => h'.2 status hstatus (h.2 status hstatus hrow)⟩

theorem stays_fail {row : PaymentSettlement} (h : row.settlementStatus ≠ .confirmed) :
    Stays row row.fail := by
  refine ⟨rfl, ?_⟩
  rintro status (rfl | rfl) hstatus
  · exact absurd hstatus h
  · rfl

theorem stays_confirm {row : PaymentSettlement} (data : Confirmation)
    (h : row.settlementStatus ≠ .failed) : Stays row (row.confirm data) := by
  refine ⟨rfl, ?_⟩
  rintro status (rfl | rfl) hstatus
  · rfl
  · exact absurd hstatus h

/-! ### A small deployment -/

section Sample

open Payment (spelledPayment spelledDigest trustingHost)

/-- SHA-256 on the two spellings of the sample signature. -/
def sampleHost : Host :=
  { trustingHost with
    sha256 := fun text => spelledDigest (text = (spelledPayment true).payload.signature.text) }

/-- One network with one asset, and one genuine signature. -/
def sampleImports : Imports where
  host := sampleHost
  networkRegistry := .load [
    { chainId := 8453
      name := "base"
      rpcUrl := "https://rpc.example"
      fallbackRpcUrl := none
      assets := [
        { symbol := "USDC"
          address := "0x833589fCD6eDb6E08f4c7C32D4f71b54bdA02913"
          decimals := 6
          name := "USD Coin"
          eip712Version := some "2" }]
      enabled := true }]
  parseMessage _ := "Invalid payload"
  verifyTransferAuthorization _ signature _ _ :=
    if HexText.lowerCase signature = (spelledPayment false).payload.signature.text then
      .ok { valid := true, error := none }
    else .ok { valid := false, error := some "Signer does not match" }
  computeFees value :=
    { platformFee := value / 200
      developerShare := 0
      netAmount := value - value / 200
      feeBps := 50 }

/-- In either spelling the signature is genuine. -/
theorem verifySignature_spelledPayment {imports : Imports}
    (h : imports.verifyTransferAuthorization = sampleImports.verifyTransferAuthorization)
    (network : NetworkConfig) (asset : AssetConfig) (upper : Bool) (requestId signatureHash : String) :
    verifySignature imports network asset (spelledPayment upper) requestId signatureHash
      = verifyAccepted (spelledPayment upper) requestId network signatureHash := by
  have hgenuine : HexText.lowerCase (spelledPayment upper).payload.signature.text
      = (spelledPayment false).payload.signature.text := by
    cases upper <;> exact Payment.lowerCase_repeatedHex rfl rfl rfl
  rw [verifySignature, h]
  simp only [sampleImports, if_pos hgenuine]
  rfl

/-- The networks are there, and nothing else. -/
def seededWorld (ι : Type) : World ι where
  redis _ := none
  db :=
    { networks := [{ id := "net-0", chainId := 8453, name := "base" }]
      sellers := []
      requests := []
      verifications := []
      settlements := []
      receipts := []
      clock := 1700000000000 }
  chain := { transactions := [], used := [] }

/-- One payment has been verified. -/
def verifiedWorld (ι : Type) : World ι :=
  let payment := spelledPayment false
  let world := seededWorld ι
  { world with
    db :=
      { world.db with
        requests := [paymentRequestRow payment "req-0" "net-0"]
        verifications := [verificationRow ⟨.accepted, none, none⟩ "ver-0" "req-0"
          (hashSignature sampleHost payment.payload.signature.text) payment.auth.nonce.text] } }

/-- The payment, as a client sends it in either spelling. -/
def sampleVerify (upper : Bool) (requestId : String) : ServiceCall :=
  .verify (spelledPayment upper).toJson requestId

def sampleSettle : ServiceCall :=
  .settle { requestId := "req-0", verificationId := "ver-0", referralCode := none }

variable {ι : Type} {faults : Faults}

/-- A verification that is accepted. -/
def acceptMoves (who : ι) (verificationId : String) : List (Move (machine ι faults)) :=
  [.call who (.time 1700000000000), .call who (.pick 0), .call who (.fate .done),
    .call who (.fate .done), .call who (.pick 0), .call who (.fate .done), .call who (.fate .done),
    .call who (.text verificationId), .call who (.fate .done), .call who (.time 1700000000000)]

/-- The lookups of a settlement, when nothing is settled. -/
def lookups (who : ι) : List (Move (machine ι faults)) :=
  [.call who (.pick 0), .call who (.pick 0)]

/-- The lock and the row, up to the entry into `submitOnChain`. -/
def lockAndSubmit (who : ι) (settlementId : String) : List (Move (machine ι faults)) :=
  [.call who (.fate .done), .call who (.text settlementId), .call who (.fate .done),
    .call who (.fate .done)]

/-- The rest of a settlement that is mined. -/
def mineAndConfirm (who : ι) (txHash receiptId : String) : List (Move (machine ι faults)) :=
  [.call who (.text txHash), .call who (.mined ⟨.success, 100, 60000⟩), .call who (.fate .done),
    .call who (.time 1700000000000), .call who (.text receiptId), .call who (.fate .done),
    .call who (.fate .done)]

end Sample

end Service

end FacilitatorX402
