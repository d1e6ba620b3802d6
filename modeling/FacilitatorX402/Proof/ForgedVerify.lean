import FacilitatorX402.Library.Paired
import FacilitatorX402.Proof.VerifyContract

/-!
# Forged submissions

Two histories of `runVerify` calls, one with forged calls inserted. A call goes the same way in two
worlds that agree on the keys and the rows of its payment. A forged call changes neither for another
payment; but its rejection is stored with its nonce and its signature hash, and the lookup of a later
call with either of them finds it.
-/

namespace FacilitatorX402

open Interact KeyStore

namespace Service

variable {ι : Type} {faults : Faults}

/-- The ids of the rows are new. -/
def freshIds : Fair (machine ι faults) :=
  fun world op _ => ∀ row, op = .createVerification row →
    ∀ other ∈ world.db.verifications, other.id ≠ row.id

/-- Two worlds in which these payments meet the same keys, rows and networks. -/
structure Alike (payments : Set PaymentClaim) (world world' : World ι) : Prop where
  networks : world'.db.networks = world.db.networks
  nonce : ∀ payment ∈ payments, world'.redis (.nonce payment.nonce) = world.redis (.nonce payment.nonce)
  signature : ∀ payment ∈ payments,
    world'.redis (.sig payment.signatureHash) = world.redis (.sig payment.signatureHash)
  replays : ∀ payment ∈ payments,
    world'.db.replays payment.nonce payment.signatureHash
      = world.db.replays payment.nonce payment.signatureHash

theorem Alike.refl (payments : Set PaymentClaim) (world : World ι) : Alike payments world world :=
  ⟨rfl, fun _ _ => rfl, fun _ _ => rfl, fun _ _ => rfl⟩

theorem Alike.mono {payments payments' : Set PaymentClaim} {world world' : World ι}
    (h : Alike payments world world') (hsub : payments' ⊆ payments) :
    Alike payments' world world' where
  networks := h.networks
  nonce payment hpayment := h.nonce payment (hsub hpayment)
  signature payment hpayment := h.signature payment (hsub hpayment)
  replays payment hpayment := h.replays payment (hsub hpayment)

/-- The two ends of a call are alike, and so are its results. -/
def agree {α : Type} (payments : Set PaymentClaim) (world : World ι) (result : Except Err α)
    (world' : World ι) (result' : Except Err α) : Prop :=
  result' = result ∧ Alike payments world world'

/-- From worlds that are alike, the program goes the same way. -/
def Agrees {α : Type} (faults : Faults) (who : ι) (payments : Set PaymentClaim)
    (program : ServiceProgram α) : Prop :=
  ∀ world world', Alike payments world world' →
    Twin (Coupling.same : Coupling (machine ι faults)) freshIds who program program world world' (agree payments)

section Agrees

variable {who : ι} {payments : Set PaymentClaim} {α β : Type}

theorem agrees_ret (value : α) : Agrees faults who payments (.ret value) :=
  fun _ _ halike => twin_ret ⟨rfl, halike⟩

theorem agrees_throw (error : Err) :
    Agrees faults who payments (.throw error : ServiceProgram α) :=
  fun _ _ halike => twin_throw ⟨rfl, halike⟩

theorem agrees_ofExcept (result : Except Err α) :
    Agrees faults who payments (Program.ofExcept result) := by
  cases result with
  | ok value => exact agrees_ret value
  | error error => exact agrees_throw error

theorem Agrees.bind {program : ServiceProgram α} {f : α → ServiceProgram β}
    (h : Agrees faults who payments program) (hf : ∀ value, Agrees faults who payments (f value)) :
    Agrees faults who payments (program >>= f) := by
  intro world world' halike
  apply twin_bind
  apply (h world world' halike).mono
  rintro world result world' result' ⟨rfl, halike⟩
  cases result' with
  | ok value => exact hf value world world' halike
  | error error => exact ⟨rfl, halike⟩

theorem Agrees.attempt {program : ServiceProgram α} (h : Agrees faults who payments program) :
    Agrees faults who payments program.attempt := by
  intro world world' halike
  apply twin_attempt
  apply (h world world' halike).mono
  rintro world result world' result' ⟨rfl, halike⟩
  exact ⟨rfl, halike⟩

theorem Agrees.tryCatch {program : ServiceProgram α} {handler : Err → ServiceProgram α}
    (h : Agrees faults who payments program)
    (hhandler : ∀ error, Agrees faults who payments (handler error)) :
    Agrees faults who payments (program.tryCatch handler) := by
  apply h.attempt.bind
  intro result
  cases result with
  | ok value => exact agrees_ret value
  | error error => exact hhandler error

theorem twin_op {op : Op} {world world' : World ι}
    {post : World ι → Except Err op.Ans → World ι → Except Err op.Ans → Prop}
    (h : ∀ outcome answer answer' middle middle',
      (freshIds : Fair (machine ι faults)) world op outcome →
      (freshIds : Fair (machine ι faults)) world' op outcome →
      (machine ι faults).exec who world op outcome = some (answer, middle) →
      (machine ι faults).exec who world' op outcome = some (answer', middle') →
      answer.isOk = answer'.isOk ∧ post middle answer middle' answer') :
    Twin (Coupling.same : Coupling (machine ι faults)) freshIds who op.call op.call world world' post := by
  apply twin_perform rfl
  rintro outcome _ answer answer' middle middle' rfl hfair hfair' hexec hexec'
  obtain ⟨hsame, hpost⟩ := h outcome answer answer' middle middle' hfair hfair' hexec hexec'
  cases answer with
  | ok value =>
      cases answer' with
      | ok value' => exact twin_ret hpost
      | error error' => cases hsame
  | error error =>
      cases answer' with
      | ok value' => cases hsame
      | error error' => exact twin_throw hpost

/-- An operation that changes nothing, with an answer that does not depend on the world. -/
theorem agrees_op {op : Op} (h : ∀ world world' outcome answer answer' middle middle',
      Alike payments world world' →
      (machine ι faults).exec who world op outcome = some (answer, middle) →
      (machine ι faults).exec who world' op outcome = some (answer', middle') →
      answer' = answer ∧ middle = world ∧ middle' = world') :
    Agrees faults who payments op.call := by
  intro world world' halike
  apply twin_op
  intro outcome answer answer' middle middle' _ _ hexec hexec'
  obtain ⟨rfl, rfl, rfl⟩ := h world world' outcome answer answer' middle middle' halike hexec hexec'
  exact ⟨rfl, rfl, halike⟩

theorem agrees_dateNow : Agrees faults who payments dateNow := by
  apply agrees_op
  intro world world' outcome answer answer' middle middle' _ hexec hexec'
  cases outcome with
  | time ms =>
      obtain ⟨rfl, rfl⟩ := Prod.mk.inj (Option.some.inj hexec)
      obtain ⟨rfl, rfl⟩ := Prod.mk.inj (Option.some.inj hexec')
      exact ⟨rfl, rfl, rfl⟩
  | _ => cases hexec

theorem agrees_race : Agrees faults who payments Op.race.call := by
  apply agrees_op
  intro world world' outcome answer answer' middle middle' _ hexec hexec'
  cases outcome with
  | pick index =>
      obtain ⟨rfl, rfl⟩ := Prod.mk.inj (Option.some.inj hexec)
      obtain ⟨rfl, rfl⟩ := Prod.mk.inj (Option.some.inj hexec')
      exact ⟨rfl, rfl, rfl⟩
  | _ => cases hexec

theorem query_agree {W : Type} {value : α} {world world' middle middle' : W} {outcome : Outcome}
    {answer answer' : Except Err α} (h : query world value outcome = some (answer, middle))
    (h' : query world' value outcome = some (answer', middle')) :
    answer' = answer ∧ middle = world ∧ middle' = world' := by
  unfold query at h h'
  split at h
  · obtain ⟨rfl, rfl⟩ := Prod.mk.inj (Option.some.inj h)
    obtain ⟨rfl, rfl⟩ := Prod.mk.inj (Option.some.inj h')
    exact ⟨rfl, rfl, rfl⟩
  · obtain ⟨rfl, rfl⟩ := Prod.mk.inj (Option.some.inj h)
    obtain ⟨rfl, rfl⟩ := Prod.mk.inj (Option.some.inj h')
    exact ⟨rfl, rfl, rfl⟩
  · cases h

theorem findFirst_agree {W : Type} {rows : List α} {world world' middle middle' : W}
    {outcome : Outcome} {answer answer' : Except Err (Option α)}
    (h : findFirst world rows outcome = some (answer, middle))
    (h' : findFirst world' rows outcome = some (answer', middle')) :
    answer' = answer ∧ middle = world ∧ middle' = world' := by
  cases outcome with
  | pick index =>
      simp only [findFirst] at h h'
      split at h
      · rename_i hempty
        rw [if_pos hempty] at h'
        obtain ⟨rfl, rfl⟩ := Prod.mk.inj (Option.some.inj h)
        obtain ⟨rfl, rfl⟩ := Prod.mk.inj (Option.some.inj h')
        exact ⟨rfl, rfl, rfl⟩
      · rename_i hrows
        rw [if_neg hrows] at h'
        obtain ⟨row, hrow, heq⟩ := Option.map_eq_some_iff.mp h
        obtain ⟨row', hrow', heq'⟩ := Option.map_eq_some_iff.mp h'
        obtain rfl := Option.some.inj (hrow.symm.trans hrow')
        obtain ⟨rfl, rfl⟩ := Prod.mk.inj heq
        obtain ⟨rfl, rfl⟩ := Prod.mk.inj heq'
        exact ⟨rfl, rfl, rfl⟩
  | fate fate =>
      cases fate with
      | failed error =>
          obtain ⟨rfl, rfl⟩ := Prod.mk.inj (Option.some.inj h)
          obtain ⟨rfl, rfl⟩ := Prod.mk.inj (Option.some.inj h')
          exact ⟨rfl, rfl, rfl⟩
      | _ => cases h
  | _ => cases h

theorem agrees_findNetwork (chainId : Int) :
    Agrees faults who payments (findNetwork chainId) := by
  apply agrees_op
  intro world world' outcome answer answer' middle middle' halike hexec hexec'
  simp only [exec, halike.networks] at hexec hexec'
  exact query_agree hexec hexec'

section Payment

variable {payment : PaymentClaim} (hpayment : payment ∈ payments)
include hpayment

theorem agrees_findReplay :
    Agrees faults who payments (findReplay payment.nonce payment.signatureHash) := by
  apply agrees_op
  intro world world' outcome answer answer' middle middle' halike hexec hexec'
  simp only [exec, halike.replays payment hpayment] at hexec hexec'
  exact findFirst_agree hexec hexec'

omit hpayment in
theorem Alike.redis {world world' middle middle' : World ι} (halike : Alike payments world world')
    {command : KeyStore.Op Key} {outcome : Outcome}
    (hkey : world'.redis command.key = world.redis command.key)
    {answer answer' : Except Err (interface.Ans (.redis command))}
    (hexec : (machine ι faults).exec who world (.redis command) outcome = some (answer, middle))
    (hexec' : (machine ι faults).exec who world' (.redis command) outcome = some (answer', middle')) :
    answer' = answer ∧ Alike payments middle middle' := by
  obtain ⟨⟨value, redis⟩, hredis, heq⟩ := Option.map_eq_some_iff.mp hexec
  obtain ⟨⟨value', redis'⟩, hredis', heq'⟩ := Option.map_eq_some_iff.mp hexec'
  obtain ⟨rfl, rfl⟩ := Prod.mk.inj heq
  obtain ⟨rfl, rfl⟩ := Prod.mk.inj heq'
  cases outcome with
  | fate fate =>
      obtain ⟨hanswer, hothers⟩ := KeyStore.exec_agree who hkey fate
      rw [show KeyStore.exec who world.redis command fate = (value, redis) from
        Option.some.inj hredis, show KeyStore.exec who world'.redis command fate = (value', redis')
        from Option.some.inj hredis'] at hanswer hothers
      exact ⟨hanswer, halike.networks,
        fun payment hpayment => hothers _ (halike.nonce payment hpayment),
        fun payment hpayment => hothers _ (halike.signature payment hpayment), halike.replays⟩
  | _ => cases hredis

omit hpayment in
theorem agrees_redis {command : KeyStore.Op Key}
    (hkey : ∀ world world' : World ι, Alike payments world world' →
      world'.redis command.key = world.redis command.key) :
    Agrees faults who payments (redis (@Program.call (KeyStore.interface Key) Err command)) := by
  intro world world' halike
  apply twin_perform rfl
  rintro outcome _ answer answer' middle middle' rfl _ _ hexec hexec'
  obtain ⟨rfl, halike'⟩ := halike.redis (hkey world world' halike) hexec hexec'
  cases answer' with
  | ok value => exact twin_ret ⟨rfl, halike'⟩
  | error error => exact twin_throw ⟨rfl, halike'⟩

theorem agrees_setNx {key : Key}
    (hkey : key = .nonce payment.nonce ∨ key = .sig payment.signatureHash) :
    Agrees faults who payments (redisSetNx key) := by
  apply agrees_redis
  intro world world' halike
  rcases hkey with rfl | rfl
  · exact halike.nonce payment hpayment
  · exact halike.signature payment hpayment

theorem agrees_del {key : Key}
    (hkey : key = .nonce payment.nonce ∨ key = .sig payment.signatureHash) :
    Agrees faults who payments (redisDel key) := by
  apply agrees_redis
  intro world world' halike
  rcases hkey with rfl | rfl
  · exact halike.nonce payment hpayment
  · exact halike.signature payment hpayment

omit hpayment in
theorem agrees_promiseAll {first : ServiceProgram α} {second : ServiceProgram β}
    (hfirst : Agrees faults who payments first) (hsecond : Agrees faults who payments second) :
    Agrees faults who payments (promiseAll first second) := by
  apply agrees_race.bind
  intro inOrder
  split
  · apply hfirst.attempt.bind
    intro x
    apply hsecond.attempt.bind
    intro y
    exact (agrees_ofExcept x).bind fun x => (agrees_ofExcept y).bind fun y => agrees_ret (x, y)
  · apply hsecond.attempt.bind
    intro y
    apply hfirst.attempt.bind
    intro x
    exact (agrees_ofExcept y).bind fun y => (agrees_ofExcept x).bind fun x => agrees_ret (x, y)

omit hpayment in
theorem agrees_reject (requestId code message : String) (httpStatus : Nat) :
    Agrees faults who payments (reject requestId code message httpStatus) :=
  agrees_dateNow.bind fun _ => agrees_ret _

theorem agrees_claimNonceRedis :
    Agrees faults who payments (claimNonceRedis payment.nonce payment.signatureHash) := by
  apply (agrees_promiseAll (agrees_setNx hpayment (.inl rfl))
    (agrees_setNx hpayment (.inr rfl))).bind
  rintro ⟨nonceClaimed, sigClaimed⟩
  cases nonceClaimed with
  | false => exact agrees_ret _
  | true =>
      cases sigClaimed with
      | false => exact (agrees_del hpayment (.inl rfl)).bind fun _ => agrees_ret _
      | true => exact agrees_ret _

theorem agrees_releaseNonceRedis :
    Agrees faults who payments (releaseNonceRedis payment.nonce payment.signatureHash) :=
  (agrees_promiseAll (agrees_del hpayment (.inl rfl)) (agrees_del hpayment (.inr rfl))).bind
    fun _ => agrees_ret _

theorem agrees_checkReplayPostgres :
    Agrees faults who payments (checkReplayPostgres payment.nonce payment.signatureHash) := by
  apply (agrees_findReplay hpayment).bind
  intro existing
  cases existing with
  | none => exact agrees_ret _
  | some row =>
      dsimp only
      split <;> exact agrees_ret _

end Payment

/-! ### The rows -/

theorem Db.replays_createVerification (db : Db) (row : PaymentVerification)
    (nonce signatureHash : String) :
    (db.createVerification row).replays nonce signatureHash = db.replays nonce signatureHash ++
      [row].filter fun row => row.nonce = some nonce ∨ row.signatureHash = some signatureHash :=
  List.filter_append _ _

theorem Db.verifications_withRequest (db : Db) (row : PaymentRequest) :
    (db.upsertPaymentRequest row).verifications = db.verifications := by
  unfold upsertPaymentRequest
  split <;> rfl

theorem Db.networks_withRequest (db : Db) (row : PaymentRequest) :
    (db.upsertPaymentRequest row).networks = db.networks := by
  unfold upsertPaymentRequest
  split <;> rfl

theorem Db.any_withRequest (db : Db) (row : PaymentRequest) :
    (db.upsertPaymentRequest row).requests.any (·.id = row.id) = true := by
  unfold upsertPaymentRequest
  split
  · assumption
  · simp

/-- With its request there and a new id, a row can be added exactly if no lookup finds it. -/
theorem Db.canVerify_iff {db : Db} {row : PaymentVerification} {nonce signatureHash : String}
    (hnonce : row.nonce = some nonce) (hhash : row.signatureHash = some signatureHash)
    (hrequest : db.requests.any (·.id = row.requestId) = true)
    (hfresh : ∀ other ∈ db.verifications, other.id ≠ row.id) :
    db.canVerify row = true ↔ db.replays nonce signatureHash = [] := by
  simp only [canVerify, hrequest, Bool.true_and, List.all_eq_true, decide_eq_true_eq, replays,
    List.filter_eq_nil_iff, hnonce, hhash, not_or]
  refine forall₂_congr fun other hother => ?_
  simp [hfresh other hother, and_comm]

theorem Alike.upsert {world world' : World ι} (halike : Alike payments world world')
    (row : PaymentRequest) :
    Alike payments { world with db := world.db.upsertPaymentRequest row }
      { world' with db := world'.db.upsertPaymentRequest row } where
  networks := by
    rw [Db.networks_withRequest, Db.networks_withRequest]
    exact halike.networks
  nonce := halike.nonce
  signature := halike.signature
  replays payment hpayment := by
    simp only [Db.replays, Db.verifications_withRequest]
    exact halike.replays payment hpayment

theorem Alike.create {world world' : World ι} (halike : Alike payments world world')
    (row : PaymentVerification) :
    Alike payments { world with db := world.db.createVerification row }
      { world' with db := world'.db.createVerification row } where
  networks := halike.networks
  nonce := halike.nonce
  signature := halike.signature
  replays payment hpayment := by
    simp only [Db.replays_createVerification, halike.replays payment hpayment]

/-- A statement that can be carried out in both worlds or in neither. -/
theorem returning_agree {value value' : α} {world after world' after' middle middle' : World ι}
    {admissible admissible' : Bool} {outcome : Outcome} {answer answer' : Except Err α}
    (hadmissible : admissible' = admissible) (halike : Alike payments world world')
    (hafter : Alike payments after after')
    (h : returning value world after admissible outcome = some (answer, middle))
    (h' : returning value' world' after' admissible' outcome = some (answer', middle')) :
    Alike payments middle middle' ∧
      ((∃ error, answer = .error error ∧ answer' = .error error) ∨
        answer = .ok value ∧ answer' = .ok value' ∧ middle = after ∧ middle' = after') := by
  subst hadmissible
  cases outcome with
  | fate fate =>
      simp only [returning] at h h'
      split at h
      · rename_i hcan
        rw [if_pos hcan] at h'
        obtain ⟨rfl, rfl⟩ := Prod.mk.inj (Option.some.inj h)
        obtain ⟨rfl, rfl⟩ := Prod.mk.inj (Option.some.inj h')
        cases fate with
        | done => exact ⟨hafter, .inr ⟨rfl, rfl, rfl, rfl⟩⟩
        | lost error => exact ⟨hafter, .inl ⟨error, rfl, rfl⟩⟩
        | failed error => exact ⟨halike, .inl ⟨error, rfl, rfl⟩⟩
      · rename_i hcannot
        rw [if_neg hcannot] at h'
        obtain ⟨rfl, rfl⟩ := Prod.mk.inj (Option.some.inj h)
        obtain ⟨rfl, rfl⟩ := Prod.mk.inj (Option.some.inj h')
        exact ⟨halike, .inl ⟨_, rfl, rfl⟩⟩
  | _ => cases h

/-- The last statement, with the request there in both worlds. -/
theorem twin_createVerification {payment : PaymentClaim} (hpayment : payment ∈ payments)
    {world world' : World ι} (halike : Alike payments world world') (verdict : Verdict)
    (verificationId requestId : String)
    (hrequest : world.db.requests.any (·.id = requestId) = true)
    (hrequest' : world'.db.requests.any (·.id = requestId) = true) :
    Twin (Coupling.same : Coupling (machine ι faults)) freshIds who
      (createVerification
        (verificationRow verdict verificationId requestId payment.signatureHash payment.nonce))
      (createVerification
        (verificationRow verdict verificationId requestId payment.signatureHash payment.nonce))
      world world' (agree payments) := by
  apply twin_op
  intro outcome answer answer' middle middle' hfresh hfresh' hexec hexec'
  have hsame : world'.db.canVerify
        (verificationRow verdict verificationId requestId payment.signatureHash payment.nonce)
      = world.db.canVerify
        (verificationRow verdict verificationId requestId payment.signatureHash payment.nonce) := by
    rw [Bool.eq_iff_iff, Db.canVerify_iff rfl rfl hrequest' (hfresh' _ rfl),
      Db.canVerify_iff rfl rfl hrequest (hfresh _ rfl), halike.replays payment hpayment]
  obtain ⟨halike', ⟨error, rfl, rfl⟩ | ⟨rfl, rfl, -, -⟩⟩ :=
    returning_agree hsame halike (halike.create _) hexec hexec'
  · exact ⟨rfl, rfl, halike'⟩
  · exact ⟨rfl, rfl, halike'⟩

theorem agrees_persistVerification {payment : PaymentClaim} (hpayment : payment ∈ payments)
    (requestId : String) (body : VerifyRequest) (network : NetworkConfig) (verdict : Verdict) :
    Agrees faults who payments (persistVerification requestId body network verdict
      payment.signatureHash payment.nonce) := by
  apply (agrees_findNetwork network.chainId).bind
  intro record
  cases record with
  | none => exact agrees_throw _
  | some record =>
      intro world world' halike
      apply twin_bind
      apply twin_op
      intro outcome answer answer' middle middle' _ _ hexec hexec'
      have hsame : world'.db.canUpsert (paymentRequestRow body requestId record.id)
          = world.db.canUpsert (paymentRequestRow body requestId record.id) := by
        rw [Db.canUpsert, Db.canUpsert, halike.networks]
      obtain ⟨halike', ⟨error, rfl, rfl⟩ | ⟨rfl, rfl, rfl, rfl⟩⟩ :=
        returning_agree hsame halike (halike.upsert _) hexec hexec'
      · exact ⟨rfl, rfl, halike'⟩
      refine ⟨rfl, ?_⟩
      change Twin _ _ _ _ _ _ _ _
      dsimp only
      rw [Db.upserted_id, Db.upserted_id]
      apply twin_bind
      apply twin_op
      intro outcome answer answer' middle middle' _ _ hexec hexec'
      cases outcome with
      | text id =>
          obtain ⟨rfl, rfl⟩ := Prod.mk.inj (Option.some.inj hexec)
          obtain ⟨rfl, rfl⟩ := Prod.mk.inj (Option.some.inj hexec')
          refine ⟨rfl, ?_⟩
          apply twin_bind
          apply (twin_createVerification hpayment halike' verdict id requestId
            (Db.any_withRequest _ (paymentRequestRow body requestId record.id))
            (Db.any_withRequest _ (paymentRequestRow body requestId record.id))).mono
          rintro world result world' result' ⟨rfl, halike⟩
          cases result' with
          | ok created => exact ⟨_, rfl, rfl, halike⟩
          | error error => exact ⟨rfl, halike⟩
      | _ => cases hexec

/-! ### A whole call -/

/-- The claims of a body. -/
def claimOf (imports : Imports) (body : VerifyRequest) : PaymentClaim :=
  ⟨body.auth.nonce.text, hashOf imports body⟩

section Call

variable {imports : Imports} {body : VerifyRequest} (hpayment : claimOf imports body ∈ payments)
  (requestId : String)
include hpayment

theorem agrees_verifyAccepted (network : NetworkConfig) :
    Agrees faults who payments
      (verifyAccepted body requestId network (hashOf imports body)) := by
  apply Agrees.bind
  · apply Agrees.tryCatch
    · exact (agrees_persistVerification hpayment requestId body network _).bind
        fun ids => agrees_ret (some ids)
    · exact fun _ => (agrees_releaseNonceRedis hpayment).bind fun _ => agrees_ret none
  · intro stored
    cases stored with
    | none => exact agrees_reject _ _ _ _
    | some ids =>
        change Agrees faults who payments (acceptedResponse body requestId ids.1 ids.2)
        unfold acceptedResponse
        split
        · exact agrees_throw _
        · exact agrees_dateNow.bind fun _ => agrees_ret _

theorem agrees_verifySignature (network : NetworkConfig) (asset : AssetConfig) :
    Agrees faults who payments
      (verifySignature imports network asset body requestId (hashOf imports body)) := by
  apply (agrees_ofExcept _).bind
  intro sigResult
  split
  · exact agrees_verifyAccepted hpayment requestId network
  · apply (agrees_releaseNonceRedis hpayment).bind
    intro released
    apply (agrees_persistVerification hpayment requestId body network _).bind
    exact fun _ => agrees_reject _ _ _ _

theorem agrees_verifyClaimed (network : NetworkConfig) (asset : AssetConfig) :
    Agrees faults who payments (verifyClaimed imports network asset body requestId) := by
  apply (agrees_claimNonceRedis hpayment).bind
  intro claimed
  cases claimed with
  | some reason => exact agrees_reject _ _ _ _
  | none =>
      apply (agrees_checkReplayPostgres hpayment).bind
      intro replayed
      cases replayed with
      | some reason =>
          exact (agrees_releaseNonceRedis hpayment).bind fun _ => agrees_reject _ _ _ _
      | none => exact agrees_verifySignature hpayment requestId network asset

theorem agrees_verifyParsed :
    Agrees faults who payments (verifyParsed imports body requestId) := by
  unfold verifyParsed
  split
  · exact agrees_reject _ _ _ _
  · split
    · exact agrees_reject _ _ _ _
    · apply agrees_dateNow.bind
      intro nowMs
      apply (agrees_ofExcept _).bind
      intro refusal
      cases refusal with
      | none => exact agrees_verifyClaimed hpayment requestId _ _
      | some refusal => exact agrees_reject _ _ _ _

end Call

/-- A call goes the same way wherever its payment meets the same keys, rows and networks. -/
theorem agrees_runVerify {imports : Imports} {raw : Json} (requestId : String)
    (hpayment : ∀ body, parseVerifyRequest raw = .ok body → claimOf imports body ∈ payments) :
    Agrees faults who payments (runVerify imports raw requestId) := by
  unfold runVerify parseX402Payload
  cases hparse : parseVerifyRequest raw with
  | error issues => exact agrees_reject _ _ _ _
  | ok body => exact agrees_verifyParsed (hpayment body hparse) requestId

end Agrees

/-! ### What a forged call leaves -/

/-- No verification accepts the signature of the body. -/
def Forged (imports : Imports) (body : VerifyRequest) : Prop :=
  ∀ network asset sigResult, imports.networkRegistry.getNetworkByName body.network = some network →
    network.findAsset (imports.host.toUpperCase body.asset) = some asset →
    imports.verifyTransferAuthorization body.auth body.payload.signature.text asset network
      = .ok sigResult → sigResult.valid = false

/-- With neither key there, a forged call leaves both of them, or its row. -/
def LeavesClaim (pattern : Pattern) (imports : Imports) (world : World ι) (body : VerifyRequest)
    (requestId : String) (network : NetworkConfig) (asset : AssetConfig) : Prop :=
  let verified :=
    imports.verifyTransferAuthorization body.auth body.payload.signature.text asset network
  Unclaimed world body.auth.nonce.text (hashOf imports body) ∧
    (pattern.lookup.Fails ∨
      world.db.replays body.auth.nonce.text (hashOf imports body) = [] ∧
        ((∃ error, verified = .error error) ∨
          ∃ sigResult record, verified = .ok sigResult ∧
            VerificationAdded pattern imports.host world.db network body requestId
              (invalidVerdict sigResult) record))

/-- A forged call leaves a mark on a payment: it passes the checks, and either it has found the nonce
key alone and leaves the signature key of the payment, or it leaves the keys or a row under its nonce
or its signature hash, as they are written. -/
def Marks (pattern : Pattern) (imports : Imports) (world : World ι) (body : VerifyRequest)
    (requestId : String) (nowMs : Nat) (payment : PaymentClaim) : Prop :=
  ∃ network asset, Passes imports body nowMs network asset ∧
    (HalfClaimed world body.auth.nonce.text (hashOf imports body) ∧
        hashOf imports body = payment.signatureHash ∨
      LeavesClaim pattern imports world body requestId network asset ∧
        (body.auth.nonce.text = payment.nonce ∨ hashOf imports body = payment.signatureHash))

section Frame

variable {payments : Set PaymentClaim} {world world' last : World ι} {who : ι}

theorem Alike.put (halike : Alike payments world world') {key : Key}
    (hkey : ∀ payment ∈ payments, key ≠ .nonce payment.nonce ∧ key ≠ .sig payment.signatureHash) :
    Alike payments world { world' with redis := world'.redis.put key who } where
  networks := halike.networks
  nonce payment hpayment :=
    (Store.put_of_ne _ (hkey payment hpayment).1.symm _).trans (halike.nonce payment hpayment)
  signature payment hpayment :=
    (Store.put_of_ne _ (hkey payment hpayment).2.symm _).trans (halike.signature payment hpayment)
  replays := halike.replays

/-- Statements of a persistence are seen by the payments of its own row alone. -/
theorem Alike.persist (halike : Alike payments world world') {pattern : Pattern} {host : Host}
    {network : NetworkConfig} {body : VerifyRequest} {requestId : String} {verdict : Verdict}
    {db : Db} {succeeds : Bool}
    (hpersist : PersistEnds pattern host world'.db network body requestId verdict db succeeds)
    (hapart : ∀ record, VerificationAdded pattern host world'.db network body requestId verdict record →
      ∀ payment ∈ payments, body.auth.nonce.text ≠ payment.nonce ∧
        hashSignature host body.payload.signature.text ≠ payment.signatureHash) :
    Alike payments world { world' with db := db } := by
  cases hpersist with
  | absent _ => exact halike
  | upserted _ _ =>
      constructor
      · rw [Db.networks_withRequest]
        exact halike.networks
      · exact halike.nonce
      · exact halike.signature
      · intro payment hpayment
        simp only [Db.replays, Db.verifications_withRequest]
        exact halike.replays payment hpayment
  | @added record hadded _ _ =>
      constructor
      · exact (Db.networks_withRequest _ _).trans halike.networks
      · exact halike.nonce
      · exact halike.signature
      · intro payment hpayment
        obtain ⟨hnonce, hhash⟩ := hapart record hadded payment hpayment
        rw [Db.replays_createVerification, List.filter_cons_of_neg, List.filter_nil,
          List.append_nil]
        · simp only [Db.replays, Db.verifications_withRequest]
          exact halike.replays payment hpayment
        · simp [verificationRow, hnonce, hhash]

/-- A forged call that leaves no mark on them is not seen by the payments. -/
theorem Ends.alike {pattern : Pattern} {imports : Imports} {body : VerifyRequest} {requestId : String}
    {nowMs : Nat} {result : Except Err VerifyResponse}
    (hends : Ends pattern imports who body requestId nowMs world' last result)
    (hforged : Forged imports body)
    (hspared : ∀ payment ∈ payments, ¬Marks pattern imports world' body requestId nowMs payment)
    (halike : Alike payments world world') : Alike payments world last := by
  have hapart : ∀ {network : NetworkConfig} {asset : AssetConfig},
      Passes imports body nowMs network asset →
      LeavesClaim pattern imports world' body requestId network asset →
      ∀ payment ∈ payments, body.auth.nonce.text ≠ payment.nonce ∧
        hashOf imports body ≠ payment.signatureHash := by
    intro network asset hpasses hleaves payment hpayment
    have hspared := hspared payment hpayment
    exact ⟨fun heq => hspared ⟨network, asset, hpasses, .inr ⟨hleaves, .inl heq⟩⟩,
      fun heq => hspared ⟨network, asset, hpasses, .inr ⟨hleaves, .inr heq⟩⟩⟩
  have hboth : ∀ {network : NetworkConfig} {asset : AssetConfig},
      Passes imports body nowMs network asset →
      LeavesClaim pattern imports world' body requestId network asset →
      Alike payments world (world'.claimed who body.auth.nonce.text (hashOf imports body)) := by
    intro network asset hpasses hleaves
    apply (halike.put _).put
    · intro payment hpayment
      exact ⟨nofun, fun heq => (hapart hpasses hleaves payment hpayment).2 (Key.sig.inj heq)⟩
    · intro payment hpayment
      exact ⟨fun heq => (hapart hpasses hleaves payment hpayment).1 (Key.nonce.inj heq), nofun⟩
  cases hends with
  | unchecked _ _ => exact halike
  | present _ _ _ => exact halike
  | replayed _ _ _ _ _ => exact halike
  | @halfClaimed network asset result hpasses hhalf hcode =>
      apply halike.put
      intro payment hpayment
      exact ⟨nofun, fun heq => hspared payment hpayment
        ⟨network, asset, hpasses, .inl ⟨hhalf, Key.sig.inj heq⟩⟩⟩
  | lookupFailed hpasses hunclaimed hfails => exact hboth hpasses ⟨hunclaimed, .inl hfails⟩
  | verifierThrew hpasses hunused hverify =>
      exact hboth hpasses ⟨hunused.unclaimed, .inr ⟨hunused.fresh, .inl ⟨_, hverify⟩⟩⟩
  | invalid hpasses hunused hverify hinvalid hpersist hcode =>
      exact halike.persist hpersist fun record hadded => hapart hpasses
        ⟨hunused.unclaimed, .inr ⟨hunused.fresh, .inr ⟨_, record, hverify, hadded⟩⟩⟩
  | invalidUnstored hpasses hunused hverify hinvalid hpersist =>
      exact halike.persist hpersist fun record hadded => hapart hpasses
        ⟨hunused.unclaimed, .inr ⟨hunused.fresh, .inr ⟨_, record, hverify, hadded⟩⟩⟩
  | validUnstored hpasses hunused hverify hvalid hpersist hcode =>
      rw [hforged _ _ _ hpasses.supported hpasses.listed hverify] at hvalid
      cases hvalid
  | accepted hpasses hunused hverify hvalid hpersist =>
      rw [hforged _ _ _ hpasses.supported hpasses.listed hverify] at hvalid
      cases hvalid

end Frame

/-! ### Histories with forged calls inserted -/

/-- What a call of `runVerify` is given. -/
structure Submission where
  raw : Json
  requestId : String

abbrev Submission.program (imports : Imports) (submission : Submission) :
    ServiceProgram VerifyResponse := runVerify imports submission.raw submission.requestId

abbrev Submitted (ι : Type) (faults : Faults) := Served (machine ι faults) Submission VerifyResponse

/-- A call of the original history, as it was served there and with the forged calls inserted, or one
of these. -/
inductive Entry (ι : Type) (faults : Faults) where
  | original (before after : Submitted ι faults)
  | forged (served : Submitted ι faults) (pattern : Pattern)

def Entry.before? : Entry ι faults → Option (Submitted ι faults)
  | original before _ => some before
  | forged _ _ => none

/-- The history with the forged calls, each of which meets the condition in the world it is served
in. The original calls are given the decisions they were given before. -/
inductive Extended (imports : Imports)
    (spares : World ι → Submitted ι faults → Pattern → List (Entry ι faults) → Prop) :
    World ι → List (Entry ι faults) → World ι → Prop
  | nil {world : World ι} : Extended imports spares world [] world
  | original {before after : Submitted ι faults} {rest : List (Entry ι faults)}
      {world middle last : World ι} (hgiven : after.given = before.given)
      (hserved : Alone (machine ι faults) freshIds after.who (after.request.program imports) world
        after.decisions after.result middle) (hrest : Extended imports spares middle rest last) :
      Extended imports spares world (.original before after :: rest) last
  | forged {served : Submitted ι faults} {pattern : Pattern} {rest : List (Entry ι faults)}
      {world middle last : World ι}
      (hforged : ∀ body, parseVerifyRequest served.request.raw = .ok body → Forged imports body)
      (hserved : Alone (machine ι faults) pattern.fair served.who (served.request.program imports)
        world served.decisions served.result middle)
      (hspares : spares world served pattern rest)
      (hrest : Extended imports spares middle rest last) :
      Extended imports spares world (.forged served pattern :: rest) last

/-- The payments of the original calls that are still to come. -/
def laterPayments (imports : Imports) (entries : List (Entry ι faults)) : Set PaymentClaim :=
  { payment | ∃ before after body, .original before after ∈ entries ∧
    parseVerifyRequest before.request.raw = .ok body ∧ claimOf imports body = payment }

/-- A forged call leaves no mark on a payment that is still to come. -/
def Spares (imports : Imports) (world : World ι) (served : Submitted ι faults) (pattern : Pattern)
    (rest : List (Entry ι faults)) : Prop :=
  ∀ body nowMs, parseVerifyRequest served.request.raw = .ok body →
    ReadsFirst served.decisions nowMs → ∀ payment ∈ laterPayments imports rest,
      ¬Marks pattern imports world body served.request.requestId nowMs payment

theorem laterPayments_cons (imports : Imports) (entry : Entry ι faults)
    (rest : List (Entry ι faults)) :
    laterPayments imports rest ⊆ laterPayments imports (entry :: rest) := by
  rintro payment ⟨before, after, body, hmem, hbody⟩
  exact ⟨before, after, body, List.mem_cons_of_mem _ hmem, hbody⟩

theorem alike_of_forged {imports : Imports} {pattern : Pattern} {served : Submitted ι faults}
    {payments : Set PaymentClaim} {world world' last : World ι}
    (hforged : ∀ body, parseVerifyRequest served.request.raw = .ok body → Forged imports body)
    (hserved : Alone (machine ι faults) pattern.fair served.who (served.request.program imports)
      world' served.decisions served.result last)
    (hspares : ∀ body nowMs, parseVerifyRequest served.request.raw = .ok body →
      ReadsFirst served.decisions nowMs → ∀ payment ∈ payments,
        ¬Marks pattern imports world' body served.request.requestId nowMs payment)
    (halike : Alike payments world world') : Alike payments world last := by
  unfold Submission.program runVerify parseX402Payload at hserved
  cases hparse : parseVerifyRequest served.request.raw with
  | error issues =>
      rw [hparse] at hserved
      obtain ⟨_, _, -, -, -, rfl⟩ := alone_refusal hserved
      exact halike
  | ok body =>
      rw [hparse] at hserved
      obtain ⟨nowMs, hfirst, hends⟩ := ends_of_alone hserved
      exact hends.alike (hforged body hparse) (hspares body nowMs hparse hfirst) halike

/-- In a history with forged calls that leave no mark, the original calls have the results they had. -/
theorem Extended.result_eq {imports : Imports} {entries : List (Entry ι faults)}
    {world world' last last' : World ι}
    (horiginal : Serially (fun _ => freshIds) (Submission.program imports) world
      (entries.filterMap Entry.before?) last)
    (hextended : Extended imports (Spares imports) world' entries last')
    (halike : Alike (laterPayments imports entries) world world')
    {before after : Submitted ι faults} (hmem : .original before after ∈ entries) :
    after.result = before.result := by
  induction hextended generalizing world with
  | nil => cases hmem
  | @original before' after' rest world' middle' last' hgiven hserved hrest ih =>
      change Serially _ _ _ (before' :: rest.filterMap Entry.before?) _ at horiginal
      obtain ⟨middle, hserved', horiginal⟩ := horiginal.of_cons
      obtain ⟨hwho, hrequest, hdecisions⟩ : after'.who = before'.who ∧
          after'.request = before'.request ∧ after'.decisions = before'.decisions := by
        simpa [Served.given] using hgiven
      rw [hwho, hrequest, hdecisions] at hserved
      have hagrees : Agrees faults before'.who
          (laterPayments imports (.original before' after' :: rest))
          (before'.request.program imports) :=
        agrees_runVerify _ fun body hbody =>
          ⟨before', after', body, List.mem_cons_self, hbody, rfl⟩
      obtain ⟨hresult, halike'⟩ := (hagrees world world' halike).sound
        (Coupling.same_agree _) hserved' hserved
      rcases List.mem_cons.mp hmem with heq | hmem
      · obtain ⟨rfl, rfl⟩ := Entry.original.inj heq
        exact hresult
      · exact ih horiginal (halike'.mono (laterPayments_cons _ _ _)) hmem
  | @forged served pattern rest world' middle' last' hforged hserved hspares hrest ih =>
      rw [List.filterMap_cons_none rfl] at horiginal
      rcases List.mem_cons.mp hmem with heq | hmem
      · cases heq
      · exact ih horiginal (alike_of_forged hforged hserved hspares
          (halike.mono (laterPayments_cons _ _ _))) hmem

/-- The call has been accepted. -/
def Submitted.Accepted (served : Submitted ι faults) : Prop :=
  ∃ result, served.result = .ok (.accepted result)

/-- **Forged calls that leave no mark burn nothing.** Inserted into a history, they turn no accepted
call of it into a rejected one. -/
theorem forged_burn_nothing {imports : Imports} {entries : List (Entry ι faults)}
    {world last last' : World ι}
    (horiginal : Serially (fun _ => freshIds) (Submission.program imports) world
      (entries.filterMap Entry.before?) last)
    (hextended : Extended imports (Spares imports) world entries last')
    {before after : Submitted ι faults} (hmem : .original before after ∈ entries)
    (haccepted : before.Accepted) : after.Accepted := by
  obtain ⟨result, hresult⟩ := haccepted
  exact ⟨result, (hextended.result_eq horiginal (.refl _ world) hmem).trans hresult⟩

/-! ### A forged call before a payment -/

section Sample

open Payment (spelledPayment forgedPayment forgedDigest)

/-- SHA-256 on the forged signature as well. -/
def forgedImports : Imports :=
  { sampleImports with
    host :=
      { sampleHost with
        sha256 := fun text =>
          if text = (forgedPayment true).payload.signature.text then forgedDigest
          else sampleHost.sha256 text } }

/-- Whether the ids of the rows are new. -/
def freshIdsTest (world : World ι) : Op → Outcome → Bool
  | .createVerification row, _ => world.db.verifications.all (·.id ≠ row.id)
  | _, _ => true

theorem freshIds_of_test (world : World ι) (op : Op) (outcome : Outcome)
    (h : freshIdsTest world op outcome = true) :
    (freshIds : Fair (machine ι faults)) world op outcome := by
  rintro row rfl other hother
  exact of_decide_eq_true (List.all_eq_true.mp h other hother)

/-- Everything is answered, whichever operation comes. -/
def answering (verificationId : String) : Decisions (machine ι faults) :=
  List.replicate 16 fun
    | .now => .time 1700000000000
    | .race => .pick 0
    | .findReplay _ _ => .pick 0
    | .generateId => .text verificationId
    | _ => .fate .done

/-- A call of the sample, on its own. -/
def sampleRun (test : World Unit → Op → Outcome → Bool) (body : VerifyRequest)
    (requestId verificationId : String) (world : World Unit) :
    Option (Except Err VerifyResponse × World Unit) :=
  runAlone (M := machine Unit ⟨false, false⟩) test () (verifyParsed forgedImports body requestId) world
    (answering verificationId)

theorem alone_of_sampleRun {test : World Unit → Op → Outcome → Bool}
    {fair : Fair (machine Unit ⟨false, false⟩)} {body : VerifyRequest}
    {requestId verificationId : String} {world last : World Unit} {result : Except Err VerifyResponse}
    (htest : ∀ world op outcome, test world op outcome = true → fair world op outcome)
    (h : sampleRun test body requestId verificationId world = some (result, last)) :
    Alone (machine Unit ⟨false, false⟩) fair ()
      (Submission.program forgedImports ⟨body.toJson, requestId⟩) world (answering verificationId)
      result last := by
  rw [Submission.program, runVerify_toJson]
  exact alone_of_runAlone htest h

/-- The payment alone, and the payment after a forged call: whether it is accepted. -/
def paidAlone : Option (Except Err VerifyResponse × World Unit) :=
  sampleRun freshIdsTest (spelledPayment false) "req-1" "ver-1" (seededWorld Unit)

def paidAfter (reuse : Bool) : Option (Except Err VerifyResponse × World Unit) :=
  (sampleRun (samplePattern (.pick 0)).test (forgedPayment reuse) "req-0" "ver-0"
    (seededWorld Unit)).bind fun forged =>
      sampleRun freshIdsTest (spelledPayment false) "req-1" "ver-1" forged.2

theorem forgedImports_verify :
    forgedImports.verifyTransferAuthorization = sampleImports.verifyTransferAuthorization := by
  rw [forgedImports]

theorem paidAlone_accepted : paidAlone.any (fun ended => isAcceptance ended.1) = true := by
  simp only [paidAlone, sampleRun, verifyParsed, verifyChecked, verifyClaimed,
    verifySignature_spelledPayment forgedImports_verify]
  decide +kernel

/-- With the nonce of the payment a forged call takes it away. -/
theorem paidAfter_accepted (reuse : Bool) :
    (paidAfter reuse).any (fun ended => isAcceptance ended.1 == !reuse) = true := by
  simp only [paidAfter, sampleRun, verifyParsed, verifyChecked, verifyClaimed,
    verifySignature_spelledPayment forgedImports_verify]
  cases reuse <;> decide +kernel

abbrev SampleEntry := Entry Unit ⟨false, false⟩

def sampleCall (body : VerifyRequest) (requestId verificationId : String)
    (result : Except Err VerifyResponse) : Submitted Unit ⟨false, false⟩ where
  who := ()
  request := ⟨body.toJson, requestId⟩
  decisions := answering verificationId
  result := result

def sampleForged (reuse : Bool) (result : Except Err VerifyResponse) : Submitted Unit ⟨false, false⟩ :=
  sampleCall (forgedPayment reuse) "req-0" "ver-0" result

def samplePaid (result : Except Err VerifyResponse) : Submitted Unit ⟨false, false⟩ :=
  sampleCall (spelledPayment false) "req-1" "ver-1" result

/-- The two histories of the sample, one entry after the other. -/
def sampleEntries (reuse : Bool) (rejected before after : Except Err VerifyResponse) :
    List SampleEntry :=
  [.forged (sampleForged reuse rejected) (samplePattern (.pick 0)),
    .original (samplePaid before) (samplePaid after)]

theorem lowerCase_forgedPayment (reuse : Bool) :
    HexText.lowerCase (forgedPayment reuse).payload.signature.text
      = (forgedPayment reuse).payload.signature.text := by
  cases reuse <;> exact @Payment.lowerCase_repeatedHex _ 'd' 'd' rfl rfl rfl

theorem forged_forgedPayment (reuse : Bool) (body : VerifyRequest)
    (h : parseVerifyRequest (forgedPayment reuse).toJson = .ok body) : Forged forgedImports body := by
  rw [parseVerifyRequest_toJson] at h
  rw [← Except.ok.inj h]
  intro network asset sigResult _ _ hverify
  have hother : HexText.lowerCase (forgedPayment reuse).payload.signature.text
      ≠ (spelledPayment false).payload.signature.text := by
    rw [lowerCase_forgedPayment]
    cases reuse <;> decide +kernel
  simp only [forgedImports, sampleImports, if_neg hother] at hverify
  rw [← Except.ok.inj hverify]

theorem exists_sampleEntries {reuse accepted : Bool}
    {spares : World Unit → Submitted Unit ⟨false, false⟩ → Pattern → List SampleEntry → Prop}
    (hafter : (paidAfter reuse).any (fun ended => isAcceptance ended.1 == accepted) = true)
    (hspares : ∀ rejected before after, spares (seededWorld Unit) (sampleForged reuse rejected)
      (samplePattern (.pick 0)) [.original (samplePaid before) (samplePaid after)]) :
    ∃ rejected before after last last',
      Serially (fun _ => freshIds) (Submission.program forgedImports) (seededWorld Unit)
        ((sampleEntries reuse rejected before after).filterMap Entry.before?) last ∧
      Extended forgedImports spares (seededWorld Unit) (sampleEntries reuse rejected before after)
        last' ∧
      isAcceptance before = true ∧ isAcceptance after = accepted := by
  obtain ⟨⟨before, last⟩, hpaid, haccepted⟩ := (Option.any_eq_true _ _).mp paidAlone_accepted
  obtain ⟨⟨after, last'⟩, hrest, haccepted'⟩ := (Option.any_eq_true _ _).mp hafter
  obtain ⟨⟨rejected, middle⟩, hforged, hpaid'⟩ := Option.bind_eq_some_iff.mp hrest
  have hoff : Alone (machine Unit ⟨false, false⟩) freshIds () _ (seededWorld Unit) _ before last :=
    alone_of_sampleRun freshIds_of_test hpaid
  have hon : Alone (machine Unit ⟨false, false⟩) freshIds () _ middle _ after last' :=
    alone_of_sampleRun freshIds_of_test hpaid'
  refine ⟨rejected, before, after, last, last', ?_, ?_, haccepted, eq_of_beq haccepted'⟩
  · change Serially _ _ _ [samplePaid before] _
    exact .cons hoff .nil
  · exact .forged (forged_forgedPayment reuse) (alone_of_sampleRun Pattern.fair_of_test hforged)
      (hspares rejected before after) (.original rfl hon .nil)

theorem Submitted.accepted_of_isAcceptance {served : Submitted ι faults}
    (h : isAcceptance served.result = true) : served.Accepted := by
  unfold isAcceptance at h
  split at h
  · rename_i result hresult
    exact ⟨result, hresult⟩
  · cases h

/-- Another nonce and another signature leave no mark. -/
theorem spares_sampleForged (rejected before after : Except Err VerifyResponse) :
    Spares forgedImports (seededWorld Unit) (sampleForged false rejected) (samplePattern (.pick 0))
      [.original (samplePaid before) (samplePaid after)] := by
  rintro body nowMs hbody - payment ⟨before', after', body', hmem, hbody', rfl⟩
    ⟨network, asset, -, hmarks⟩
  obtain ⟨rfl, -⟩ := Entry.original.inj (List.mem_singleton.mp hmem)
  have hforged : parseVerifyRequest (forgedPayment false).toJson = .ok body := hbody
  have hpaid : parseVerifyRequest (spelledPayment false).toJson = .ok body' := hbody'
  rw [parseVerifyRequest_toJson] at hforged hpaid
  rw [← Except.ok.inj hforged, ← Except.ok.inj hpaid] at hmarks
  have hhash : hashOf forgedImports (forgedPayment false)
      ≠ hashOf forgedImports (spelledPayment false) := by decide +kernel
  have hnonce : (forgedPayment false).auth.nonce.text ≠ (spelledPayment false).auth.nonce.text := by
    decide +kernel
  rcases hmarks with ⟨-, heq⟩ | ⟨-, heq | heq⟩
  · exact hhash heq
  · exact hnonce heq
  · exact hhash heq

theorem forged_burn_nothing_elsewhere : ∃ rejected before after last',
    Extended forgedImports (Spares forgedImports) (seededWorld Unit)
      (sampleEntries false rejected before after) last' ∧
    (samplePaid before).Accepted ∧ (samplePaid after).Accepted := by
  obtain ⟨rejected, before, after, last, last', horiginal, hextended, haccepted, -⟩ :=
    @exists_sampleEntries false true (Spares forgedImports) (paidAfter_accepted false) spares_sampleForged
  have hbefore : (samplePaid before).Accepted := Submitted.accepted_of_isAcceptance haccepted
  exact ⟨rejected, before, after, last', hextended, hbefore,
    forged_burn_nothing horiginal hextended (List.mem_cons_of_mem _ List.mem_cons_self) hbefore⟩

/-- A forged call with the nonce of the payment burns it. -/
theorem forged_burns_payment : ∃ rejected before after last last',
    Serially (fun _ => freshIds) (Submission.program forgedImports) (seededWorld Unit)
      ((sampleEntries true rejected before after).filterMap Entry.before?) last ∧
    Extended forgedImports (fun _ _ _ _ => True) (seededWorld Unit)
      (sampleEntries true rejected before after) last' ∧
    (samplePaid before).Accepted ∧ ¬(samplePaid after).Accepted := by
  obtain ⟨rejected, before, after, last, last', horiginal, hextended, haccepted, hrejected⟩ :=
    @exists_sampleEntries true false (fun _ _ _ _ => True) (paidAfter_accepted true) fun _ _ _ => trivial
  refine ⟨rejected, before, after, last, last', horiginal, hextended,
    Submitted.accepted_of_isAcceptance haccepted, ?_⟩
  rintro ⟨result, hresult⟩
  rw [show after = .ok (.accepted result) from hresult] at hrejected
  cases hrejected

end Sample

end Service

end FacilitatorX402
