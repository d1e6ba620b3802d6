import FacilitatorX402.Library.Sequential
import FacilitatorX402.Proof.PaymentRules

/-!
# Rejected verifications

A call of `verifyPayment` that runs alone, with Redis answering every command. Whatever it throws, it
leaves the store and the rows as it has found them: each exit gives back the claims that were taken
before it, and the transaction adds all of its rows or none. Rejected calls can therefore be dropped
from a history.
-/

namespace FacilitatorX402

open Interact KeyStore

namespace Payment

variable {ι : Type} {faults : Faults}

/-- Commands to Redis are carried out and answered. -/
def redisAnswers : Fair (machine ι faults) :=
  fun _ op outcome => ∀ command, op = .redis command → outcome = .fate .done

section Rules

variable {who : ι} {world : World ι}

/-- A program that runs alone from this world meets the postcondition. -/
abbrev SatAlone {α : Type} (who : ι) (faults : Faults) (program : PaymentProgram α)
    (world : World ι) (post : World ι → Except Err α → Prop) : Prop :=
  program.Sat (solo (machine ι faults) redisAnswers who) world post

theorem alone_setNx {key : Key} {post : World ι → Except Err Bool → Prop}
    (habsent : world.redis key = none →
      post { world with redis := world.redis.put key who } (.ok true))
    (hpresent : post world (.ok false)) :
    SatAlone who faults (redis (redisSetNx key)) world post := by
  rw [SatAlone, sat_redis_setNx]
  refine ⟨trivial, ?_⟩
  rintro answer world' ⟨outcome, hfair, hexec⟩
  obtain rfl := hfair _ rfl
  cases hkey : world.redis key with
  | none =>
      simp only [exec, redisExec, KeyStore.exec, hkey, Option.map_some] at hexec
      obtain ⟨rfl, rfl⟩ := Prod.mk.inj (Option.some.inj hexec)
      exact habsent hkey
  | some holder =>
      simp only [exec, redisExec, KeyStore.exec, hkey, Option.map_some] at hexec
      obtain ⟨rfl, rfl⟩ := Prod.mk.inj (Option.some.inj hexec)
      exact hpresent

theorem alone_del {key : Key} {post : World ι → Except Err Unit → Prop}
    (herased : post { world with redis := world.redis.erase key } (.ok ())) :
    SatAlone who faults (redis (redisDel key)) world post := by
  rw [SatAlone, sat_redis_del]
  refine ⟨trivial, ?_⟩
  rintro answer world' ⟨outcome, hfair, hexec⟩
  obtain rfl := hfair _ rfl
  simp only [exec, redisExec, KeyStore.exec, Option.map_some] at hexec
  obtain ⟨rfl, rfl⟩ := Prod.mk.inj (Option.some.inj hexec)
  exact herased

theorem alone_now {post : World ι → Except Err Nat → Prop} (h : ∀ ms, post world (.ok ms)) :
    SatAlone who faults dateNow world post := by
  rw [SatAlone, dateNow, sat_op]
  refine ⟨trivial, ?_⟩
  rintro answer world' ⟨outcome, -, hexec⟩
  obtain ⟨rfl, ms, rfl⟩ := exec_now hexec
  exact h ms

theorem alone_generateId {post : World ι → Except Err String → Prop}
    (h : ∀ id, post world (.ok id)) : SatAlone who faults generateUlid world post := by
  rw [SatAlone, generateUlid, sat_op]
  refine ⟨trivial, ?_⟩
  rintro answer world' ⟨outcome, -, hexec⟩
  obtain ⟨rfl, id, rfl⟩ := exec_generateId hexec
  exact h id

/-- The transaction adds both rows, or none. -/
theorem alone_createVerified (hreported : faults.commitLost = false) {request : PaymentRequest}
    {verification : PaymentVerification} {post : World ι → Except Err Unit → Prop}
    (hcreated : world.db.canVerify request verification = true →
      post { world with db := world.db.createVerified request verification } (.ok ()))
    (hrefused : ∀ error, post world (.error error)) :
    SatAlone who faults (createVerified request verification) world post := by
  rw [SatAlone, createVerified, sat_op]
  refine ⟨trivial, ?_⟩
  rintro answer world' ⟨outcome, -, hexec⟩
  rcases transaction_cases hreported hexec with ⟨hcan, rfl, rfl⟩ | ⟨⟨error, rfl⟩, rfl⟩
  · exact hcreated hcan
  · exact hrefused error

end Rules

/-! ### The exits of a call -/

/-- The world in which a call holds both claims. -/
def World.claimed (world : World ι) (req : VerifyRequest) (who : ι) : World ι :=
  { world with
    redis := (world.redis.put (nonceKey req.auth.nonce.text) who).put
      (signatureKey (computeSignatureHash req.payload.signature.text)) who }

/-- Neither claim is taken. -/
def Unclaimed (world : World ι) (req : VerifyRequest) : Prop :=
  world.redis (nonceKey req.auth.nonce.text) = none ∧
    world.redis (signatureKey (computeSignatureHash req.payload.signature.text)) = none

/-- A step that leads to a world when it succeeds, and back to another one when it throws. -/
def leadsTo {α : Type} (reached before : World ι) : World ι → Except Err α → Prop
  | world, .ok _ => world = reached
  | world, .error _ => world = before

/-- A call that throws has changed nothing. -/
def unchangedOnError {α : Type} (before : World ι) (world : World ι)
    (outcome : Except Err α) : Prop := ∀ error, outcome = .error error → world = before

section Exits

variable {who : ι} {world : World ι} {req : VerifyRequest} {host : Host} {network : NetworkConfig}
  {asset : FoundAsset} {requestId : String}

theorem alone_releaseClaims (hunclaimed : Unclaimed world req) :
    SatAlone who faults
      (releaseClaims req.auth.nonce.text (computeSignatureHash req.payload.signature.text))
      (world.claimed req who) fun world' outcome => world' = world ∧ outcome = .ok () := by
  rw [SatAlone, releaseClaims, releaseNonce, releaseSignatureHash, Program.sat_bind']
  apply alone_del
  rw [Program.thenSat_ok]
  apply alone_del
  refine ⟨?_, rfl⟩
  have hne : nonceKey req.auth.nonce.text
      ≠ signatureKey (computeSignatureHash req.payload.signature.text) := by
    simp [nonceKey, signatureKey]
  have hback : (world.claimed req who).redis.erase (nonceKey req.auth.nonce.text)
      = world.redis.put (signatureKey (computeSignatureHash req.payload.signature.text)) who := by
    rw [World.claimed, Store.erase_put_comm _ hne, Store.erase_put _ hunclaimed.1]
  simp only [hback, Store.erase_put _ hunclaimed.2]
  rfl

/-- The exit after both claims: they are given back, and the error is thrown. -/
theorem alone_giveBack {α : Type} (hunclaimed : Unclaimed world req) (error : Err) (reached : World ι) :
    SatAlone who faults
      ((releaseClaims req.auth.nonce.text (computeSignatureHash req.payload.signature.text)).bind
        fun _ => (.throw error : PaymentProgram α))
      (world.claimed req who) (leadsTo reached world) := by
  rw [SatAlone, Program.sat_bind]
  apply (alone_releaseClaims hunclaimed).mono
  rintro world' outcome ⟨rfl, rfl⟩
  rfl

theorem alone_claimPayment :
    SatAlone who faults (claimPayment req.auth.nonce.text
      (computeSignatureHash req.payload.signature.text) requestId) world
      fun world' outcome => (outcome = .ok () → Unclaimed world req) ∧
        leadsTo (world.claimed req who) world world' outcome := by
  rw [SatAlone, claimPayment, claimNonce, claimSignatureHash, releaseNonce, Program.sat_bind']
  apply alone_setNx
  · intro hnonce
    simp only [Program.thenSat_ok, if_true, Program.sat_bind']
    apply alone_setNx
    · intro hsignature
      dsimp only at hsignature
      rw [Store.put_of_ne _ (by simp [nonceKey, signatureKey])] at hsignature
      exact ⟨fun _ => ⟨hnonce, hsignature⟩, rfl⟩
    · simp only [Program.thenSat_ok, Bool.false_eq_true, if_false, Program.sat_bind']
      apply alone_del
      refine ⟨(fun heq => by cases heq), ?_⟩
      simp only [leadsTo, Store.erase_put _ hnonce]
  · exact ⟨(fun heq => by cases heq), rfl⟩

theorem alone_checkSigner (hunclaimed : Unclaimed world req) :
    SatAlone who faults
      (checkSigner host network asset req (computeSignatureHash req.payload.signature.text)
        requestId) (world.claimed req who) (leadsTo (world.claimed req who) world) := by
  unfold checkSigner
  dsimp only
  split
  · exact alone_giveBack hunclaimed _ _
  · split
    · exact alone_giveBack hunclaimed _ _
    · exact rfl

/-- An invalid date is refused by the transaction, so that the rows of a call that throws are never
there. -/
theorem alone_persistVerified (hreported : faults.commitLost = false) {signatureHash : String}
    {verifiedAt : Nat} :
    SatAlone who faults (persistVerified host req requestId signatureHash verifiedAt) world
      (unchangedOnError world) := by
  rw [SatAlone, persistVerified, Program.sat_bind']
  apply alone_generateId
  intro verificationId
  rw [Program.thenSat_ok, Program.sat_bind']
  apply alone_createVerified hreported
  · intro hcan
    have hdate : (JsDate.ofSeconds req.auth.validBefore).isSome = true := by
      simp only [Db.canVerify, acceptedRequest, Bool.and_eq_true] at hcan
      exact hcan.1.1
    obtain ⟨timeValue, htime⟩ := Option.isSome_iff_exists.mp hdate
    rw [Program.thenSat_ok, htime]
    exact nofun
  · exact fun error _ _ => rfl

theorem alone_verifyChecked (hreported : faults.commitLost = false) :
    SatAlone who faults (verifyChecked host network asset req requestId) world
      (unchangedOnError world) := by
  rw [SatAlone, verifyChecked, Program.sat_bind']
  apply alone_now
  intro nowMs
  rw [Program.thenSat_ok, Program.sat_bind', Program.sat_ofExcept]
  cases checkAuthorization req requestId (nowMs / 1000) with
  | error error => exact fun _ _ => rfl
  | ok checked =>
      rw [Program.thenSat_ok, Program.sat_bind']
      apply alone_claimPayment.mono
      rintro world' (error | claimed) ⟨hunclaimed, hworld⟩
      · exact fun _ _ => hworld
      obtain rfl : world' = world.claimed req who := hworld
      have hunclaimed := hunclaimed rfl
      rw [Program.thenSat_ok, Program.sat_bind']
      apply (alone_checkSigner hunclaimed).mono
      rintro world' (error | signed) hworld
      · exact fun _ _ => hworld
      obtain rfl : world' = world.claimed req who := hworld
      rw [Program.thenSat_ok, Program.sat_bind']
      apply alone_now
      intro verifiedAt
      rw [Program.thenSat_ok, Program.sat_tryCatch]
      apply (alone_persistVerified hreported).mono
      rintro world' (error | result) hworld
      · obtain rfl := hworld error rfl
        apply (alone_giveBack hunclaimed _ world).mono
        rintro world' (error | result) hworld
        · exact fun _ _ => hworld
        · exact nofun
      · exact nofun

theorem alone_verifyPayment (hreported : faults.commitLost = false) (registry : NetworkRegistry)
    (rawBody : Json) :
    SatAlone who faults (verifyPayment host registry rawBody) world (unchangedOnError world) := by
  unfold verifyPayment
  split
  · exact fun _ _ => rfl
  · rw [SatAlone, verifyParsed, Program.sat_bind']
    apply alone_generateId
    intro requestId
    rw [Program.thenSat_ok]
    split
    · exact fun _ _ => rfl
    · split
      · exact fun _ _ => rfl
      · exact alone_verifyChecked hreported

end Exits

/-! ### Histories without the rejected calls -/

/-- A body that has been verified. -/
abbrev Verified (ι : Type) (faults : Faults) := Served (machine ι faults) Json VerifyResult

def Verified.accepted (served : Verified ι faults) : Bool := served.result.isOk

/-- Bodies are verified one after the other, with Redis answering every command. -/
abbrev Verifies (host : Host) (registry : NetworkRegistry) :
    World ι → List (Verified ι faults) → World ι → Prop :=
  Serially (fun _ => redisAnswers) (verifyPayment host registry)

/-- **Rejected calls are invisible.** A call that throws leaves the keys and the rows as they were.
Without the rejected calls, a history is one of the same results and the same end, and the only one
in which the calls are given the same decisions. -/
theorem rejected_invisible (hreported : faults.commitLost = false) (host : Host)
    (registry : NetworkRegistry) :
    (∀ (who : ι) (rawBody : Json) (world last : World ι) (decisions : Decisions (machine ι faults))
      (error : Err), Alone (machine ι faults) redisAnswers who (verifyPayment host registry rawBody)
        world decisions (.error error) last → last.redis = world.redis ∧ last.db = world.db) ∧
    ∀ (world last : World ι) (history : List (Verified ι faults)),
      Verifies host registry world history last →
      Verifies host registry world (history.filter (·.accepted)) last ∧
      ∀ (history' : List (Verified ι faults)) (last' : World ι),
        Verifies host registry world history' last' →
        history'.map Served.given = (history.filter (·.accepted)).map Served.given →
        history' = history.filter (·.accepted) ∧ last' = last := by
  have hthrown : ∀ {who : ι} {rawBody : Json} {world last : World ι}
      {decisions : Decisions (machine ι faults)} {result : Except Err VerifyResult},
      Alone (machine ι faults) redisAnswers who (verifyPayment host registry rawBody) world decisions
        result last →
      unchangedOnError world last result :=
    fun halone => halone.of_sat (alone_verifyPayment hreported registry _)
  constructor
  · intro who rawBody world last decisions error halone
    rw [hthrown halone error rfl]
    exact ⟨rfl, rfl⟩
  · intro world last history hhistory
    have hfiltered : Verifies host registry world (history.filter (·.accepted)) last := by
      refine hhistory.filter _ fun served world world' halone hrejected => ?_
      cases hresult : served.result with
      | ok result =>
          rw [Verified.accepted, hresult] at hrejected
          cases hrejected
      | error error => exact hthrown halone error hresult
    exact ⟨hfiltered, fun history' last' hhistory' hgiven => hfiltered.unique hhistory' hgiven⟩

/-- Whether a decision is one that `redisAnswers` admits. -/
def redisAnswersTest (_ : World ι) : Op → Outcome → Bool
  | .redis _, .fate .done => true
  | .redis _, _ => false
  | _, _ => true

theorem redisAnswers_of_test {world : World ι} {op : Op} {outcome : Outcome}
    (h : redisAnswersTest world op outcome = true) :
    @redisAnswers _ faults world op outcome := by
  rintro command rfl
  cases outcome with
  | fate fate =>
      cases fate with
      | done => rfl
      | _ => cases h
  | _ => cases h

/-- A payment is verified, and sent again. -/
def sentTwice (first second : ι) : List (ι × VerifyRequest × Decisions (machine ι faults)) :=
  [(first, firstPayment 0, constantly [.text "req-0", .time 1700000000000, .fate .done, .fate .done,
      .time 1700000000000, .text "ver-0", .fate .done]),
    (second, firstPayment 0, constantly [.text "req-1", .time 1700000000000, .fate .done])]

theorem rejected_invisible_sentTwice :
    ∃ (history : List (Verified Bool ⟨false, false⟩)) (last : World Bool),
      Verifies trustingHost baseRegistry (emptyWorld Bool) history last ∧
      Verifies trustingHost baseRegistry (emptyWorld Bool) (history.filter (·.accepted)) last ∧
      history.map (·.accepted) = [true, false] := by
  obtain ⟨⟨history, last⟩, hserve, hresults⟩ := Option.map_eq_some_iff.mp
    (show (serve (M := machine Bool ⟨false, false⟩) (fun _ => redisAnswersTest)
      (verifyParsed trustingHost baseRegistry) (emptyWorld Bool) (sentTwice false true)).map
        (fun served => served.1.map fun served => served.result.isOk) = some [true, false] by
          decide +kernel)
  have hserved : Serially (fun _ => redisAnswers) (verifyParsed trustingHost baseRegistry)
      (emptyWorld Bool) history last :=
    serially_of_serve (fun _ _ _ _ => redisAnswers_of_test) hserve
  have hhistory : Verifies trustingHost baseRegistry (emptyWorld Bool) _ last :=
    hserved.map VerifyRequest.toJson (fun _ => rfl) (verifyPayment_toJson trustingHost baseRegistry)
  refine ⟨_, last, hhistory,
    ((rejected_invisible rfl trustingHost baseRegistry).2 _ _ _ hhistory).1, ?_⟩
  rw [List.map_map]
  exact hresults

end Payment

end FacilitatorX402
