import FacilitatorX402.Proof.Acceptance
import FacilitatorX402.Proof.VerifyReplay

/-!
# Replays without keys

When Redis loses its keys, what is left against a replay are the unique columns of the verifications.
They compare the nonce as it was written, so a nonce written otherwise is another one to them. And what they
refuse, the call answers as a failure of its own: only a key that is still there makes it a duplicate.
-/

namespace FacilitatorX402

open Interact

namespace Payment

/-- Every call that has stored a verification finds it in the rows, and no two have stored one nonce or
one signature. -/
structure StoredApart {ι : Type} (db : Db) (stage : ι → Stage) : Prop where
  stored : ∀ who request verification, stage who = .stored request verification →
    verification ∈ db.verifications
  apart : ∀ who other request request' verification verification',
    stage who = .stored request verification → stage other = .stored request' verification' →
      (verification.nonce = verification'.nonce ∨
        verification.signatureHash = verification'.signatureHash) → who = other

section Step

variable {ι : Type} [DecidableEq ι] {faults : Faults} {host : Host} {registry : NetworkRegistry}
  {stage : ι → Stage} {db : Db} {who : ι} {request : PaymentRequest}
  {verification : PaymentVerification}

omit [DecidableEq ι] in
theorem StoredApart.mono (h : StoredApart db stage) {db' : Db}
    (hrows : db.verifications ⊆ db'.verifications) : StoredApart db' stage :=
  ⟨fun who request verification hstage => hrows (h.stored who request verification hstage), h.apart⟩

theorem StoredApart.store (h : StoredApart db stage)
    (hcan : db.canVerify request verification = true) :
    StoredApart (db.createVerified request verification)
      (Function.update stage who (.stored request verification)) := by
  have hfresh : ∀ other ∈ db.verifications, other.id ≠ verification.id ∧
      other.signatureHash ≠ verification.signatureHash ∧ other.nonce ≠ verification.nonce :=
    fun other hother => of_decide_eq_true
      (List.all_eq_true.mp (Bool.and_eq_true_iff.mp hcan).2 other hother)
  have hother : ∀ {other : ι} {request' : PaymentRequest} {verification' : PaymentVerification},
      other ≠ who → Function.update stage who (.stored request verification) other
        = .stored request' verification' → stage other = .stored request' verification' := by
    intro other request' verification' hne hstage
    rwa [Function.update_of_ne hne] at hstage
  have hown : ∀ {request' : PaymentRequest} {verification' : PaymentVerification},
      Function.update stage who (.stored request verification) who = .stored request' verification' →
        verification' = verification := by
    intro request' verification' hstage
    rw [Function.update_self] at hstage
    cases hstage
    rfl
  refine ⟨fun other request' verification' hstage => ?_, ?_⟩
  · by_cases heq : other = who
    · subst heq
      rw [hown hstage]
      exact List.mem_append_right _ (List.mem_singleton_self _)
    · exact List.mem_append_left _ (h.stored other _ _ (hother heq hstage))
  · intro left right leftRequest rightRequest leftRow rightRow hleft hright hsame
    by_cases hl : left = who <;> by_cases hr : right = who
    · rw [hl, hr]
    · subst hl
      obtain rfl := hown hleft
      have hrow := hfresh rightRow (h.stored right _ _ (hother hr hright))
      rcases hsame with hnonce | hsignature
      · exact absurd hnonce.symm hrow.2.2
      · exact absurd hsignature.symm hrow.2.1
    · subst hr
      obtain rfl := hown hright
      have hrow := hfresh leftRow (h.stored left _ _ (hother hl hleft))
      rcases hsame with hnonce | hsignature
      · exact absurd hnonce hrow.2.2
      · exact absurd hsignature hrow.2.1
    · exact h.apart left right _ _ _ _ (hother hl hleft) (hother hr hright) hsame

theorem StoredApart.step {rawBody : Json} {world world' : World ι} {op : Op} {outcome : Outcome}
    {answer : Except Err (interface.Ans op)} (h : StoredApart world.db stage)
    (hallowed : (PaymentCall.verify rawBody).Allowed host registry (stage who) op)
    (hexec : (machine ι faults).exec who world op outcome = some (answer, world')) :
    StoredApart world'.db (Function.update stage who ((stage who).next op answer)) := by
  have hstays : (stage who).next op answer = stage who →
      world.db.verifications ⊆ world'.db.verifications →
      StoredApart world'.db (Function.update stage who ((stage who).next op answer)) := by
    intro hnext hrows
    rw [hnext, Function.update_eq_self]
    exact h.mono hrows
  have hkeeps : (∀ request verification, op ≠ .createVerified request verification) →
      world.db.verifications ⊆ world'.db.verifications := by
    intro hop
    rcases exec_verified_cases hexec with ⟨-, hsame⟩ | ⟨request, verification, rfl, -, -⟩
    · rw [hsame]
      exact List.Subset.refl _
    · exact absurd rfl (hop request verification)
  cases op with
  | createVerified request verification =>
      rcases exec_createVerified hexec with ⟨hcan, rfl⟩ | ⟨⟨error, rfl⟩, rfl⟩
      · cases answer with
        | error error =>
            exact hstays (by cases stage who <;> rfl) (List.subset_append_left _ _)
        | ok created =>
            have hnext : (stage who).next (.createVerified request verification) (.ok created)
                = .stored request verification := by cases stage who <;> rfl
            rw [hnext]
            exact h.store hcan
      · exact hstays (by cases stage who <;> rfl) (List.Subset.refl _)
  | findPaymentRequest id =>
      obtain ⟨-, _, _, hcall, -⟩ := hallowed
      cases hcall
  | _ =>
      exact hstays (by cases stage who <;> rfl) (hkeeps fun request verification heq => by cases heq)

end Step

section Runs

variable {ι : Type} [DecidableEq ι] {faults : Faults} {host : Host} {registry : NetworkRegistry}
  {body : ι → Json} {start cfg : Config (machine ι faults) VerifyResult}

/-- An accepted call has stored the rows of its body under the id it returns. -/
def storedWhenAccepted (host : Host) (rawBody : Json) (stage : Stage)
    (outcome : Except Err VerifyResult) : Prop :=
  ∀ result, outcome = .ok result → ∃ request verification,
    stage = .stored request verification ∧
      StoredAs host rawBody result.paymentRequestId request verification

/-- The verifications of the calls are told apart by the columns of the tables. -/
abbrev TablesApart (cfg : Config (machine ι faults) VerifyResult) (stage : ι → Stage) : Prop :=
  StoredApart cfg.world.db stage

abbrev StoresApart (host : Host) (registry : NetworkRegistry) (body : ι → Json)
    (cfg : Config (machine ι faults) VerifyResult) (stage : ι → Stage) : Prop :=
  Config.Follows (fun who => callRules host registry (.verify (body who)))
    (fun who => storedWhenAccepted host (body who)) TablesApart cfg stage

theorem preserved_storedApart (host : Host) (registry : NetworkRegistry) (body : ι → Json) :
    Config.Preserved (M := machine ι faults) (fun who => callRules host registry (.verify (body who)))
      (fun who => storedWhenAccepted host (body who)) TablesApart Config.anyStep where
  call := by
    intro cfg stage who op next outcome answer world hfollows hcall hallowed hexec _
    exact ⟨_, rfl, hfollows.inv.step hallowed hexec⟩
  env := by
    intro cfg stage event world hfollows henv
    change StoredApart world.db stage
    rw [machine_env_db henv]
    exact hfollows.inv

/-- After every run the calls that have stored a verification are told apart by its columns. -/
theorem stored_apart (hstart : VerifyStart host registry body start)
    (hreach : Config.Reachable Config.anyStep start cfg) :
    ∃ stage : ι → Stage, StoresApart host registry body cfg stage := by
  have hbegin : StoresApart host registry body start fun _ => .begun := by
    refine ⟨fun who => ?_, ⟨?_, ?_⟩⟩
    · rw [hstart.calls]
      exact stores_verifyPayment (body who)
    · intro who request verification hstage
      cases hstage
    · intro who other request request' verification verification' hstage
      cases hstage
  exact hreach.follows (preserved_storedApart host registry body) hbegin

omit [DecidableEq ι] in
theorem Accepted.stored {stage : ι → Stage} {who : ι} {req : VerifyRequest}
    (haccepted : Accepted body cfg who req)
    (hfollows : StoresApart host registry body cfg stage) :
    ∃ request verification, stage who = .stored request verification ∧
      verification.nonce = req.auth.nonce.text ∧
      verification.signatureHash = computeSignatureHash req.payload.signature.text := by
  obtain ⟨hparse, result, hresult⟩ := haccepted
  obtain ⟨request, verification, hstage, req', verificationId, hparse', -, rfl⟩ :=
    hfollows.of_result hresult result rfl
  rw [hparse] at hparse'
  obtain rfl := Except.ok.inj hparse'
  exact ⟨request, _, hstage, rfl, rfl⟩

/-- **Accepted once without keys.** Whatever becomes of the keys, no two calls are accepted for one
nonce in one spelling or for one signature, and a replay of an accepted body is not accepted. -/
theorem accepted_once_without_keys (hstart : VerifyStart host registry body start)
    (hreach : Config.Reachable Config.anyStep start cfg) :
    (∀ who other req req', Accepted body cfg who req → Accepted body cfg other req' →
      req.auth.nonce.text = req'.auth.nonce.text → who = other) ∧
    (∀ who other req req', Accepted body cfg who req → Accepted body cfg other req' →
      req.payload.signature.bytes = req'.payload.signature.bytes → who = other) ∧
    ∀ who other req, Accepted body cfg who req → body other = body who → other ≠ who →
      ∀ result, (cfg.calls other).result? ≠ some (.ok result) := by
  obtain ⟨stage, hfollows⟩ := stored_apart hstart hreach
  have hnonces : ∀ who other req req', Accepted body cfg who req → Accepted body cfg other req' →
      req.auth.nonce.text = req'.auth.nonce.text → who = other := by
    intro who other req req' hwho hother hnonce
    obtain ⟨_, _, hstage, hstored, -⟩ := hwho.stored hfollows
    obtain ⟨_, _, hstage', hstored', -⟩ := hother.stored hfollows
    apply hfollows.inv.apart who other _ _ _ _ hstage hstage'
    left
    rw [hstored, hstored', hnonce]
  refine ⟨hnonces, ?_, ?_⟩
  · intro who other req req' hwho hother hsignature
    obtain ⟨_, _, hstage, -, hstored⟩ := hwho.stored hfollows
    obtain ⟨_, _, hstage', -, hstored'⟩ := hother.stored hfollows
    apply hfollows.inv.apart who other _ _ _ _ hstage hstage'
    right
    rw [hstored, hstored']
    exact (HexString.lower_eq_iff _ _).mpr hsignature
  · intro who other req hwho hbody hne result hresult
    have hother : Accepted body cfg other req := by
      refine ⟨?_, result, hresult⟩
      rw [hbody]
      exact hwho.1
    exact hne (hnonces other who req req hother hwho rfl)

end Runs

/-! ### Replays that are known for what they are -/

section Replays

variable {ι : Type} {faults : Faults} {host : Host} {registry : NetworkRegistry} {body : ι → Json}

/-- Payments of one payer with one nonce that can pass the checks write the nonce with the same digits, or
have one signature. -/
def SpelledAlike (host : Host) (registry : NetworkRegistry) (body : ι → Json) : Prop :=
  ∀ who other req req' nowMs nowMs' network network' asset asset',
    parseVerifyRequest (body who) = .ok req → parseVerifyRequest (body other) = .ok req' →
    Checked host registry req nowMs network asset → Checked host registry req' nowMs' network' asset' →
    req.auth.from.bytes = req'.auth.from.bytes → req.auth.nonce.bytes = req'.auth.nonce.bytes →
      req.auth.nonce.text = req'.auth.nonce.text ∨
        req.payload.signature.bytes = req'.payload.signature.bytes

/-- The call has not begun, and another one with its body has been accepted. -/
def Replays (body : ι → Json) (cfg : Config (machine ι faults) VerifyResult) (who : ι) : Prop :=
  cfg.NotStarted who ∧ ∃ earlier req, body earlier = body who ∧ Accepted body cfg earlier req

def claimKey (req : VerifyRequest) : Key :=
  signatureKey (computeSignatureHash req.payload.signature.text)

/-- An operation that is answered, of a replay before the deadline of its payment; and where it would claim
the signature, the key is still there. -/
structure Remembered (req : VerifyRequest) (cfg : Config (machine ι faults) VerifyResult)
    (event : Event interface Err ι) : Prop where
  answered : event.answer.isOk = true
  inTime : ∀ nowMs ∈ reading? event, nowMs / 1000 < req.auth.validBefore
  claimed : event.op = .redis (.setNx (claimKey req)) → cfg.world.redis (claimKey req) ≠ none

/-- The steps of the calls that replay at `middle` are remembered. -/
def replaysRemembered (body : ι → Json) (middle cfg : Config (machine ι faults) VerifyResult)
    (event : Event interface Err ι) : Prop :=
  Replays body middle event.who → ∀ req, parseVerifyRequest (body event.who) = .ok req →
    Remembered req cfg event

/-- What a replay can be answered. -/
def replayAnswers (req : VerifyRequest) (who : ι) (op : Op) (answer : Except Err (interface.Ans op)) :
    Prop :=
  answer.isOk = true ∧
    (∀ nowMs ∈ reading? (⟨who, op, answer⟩ : Event interface Err ι), nowMs / 1000 < req.auth.validBefore) ∧
    (⟨who, op, answer⟩ : Event interface Err ι) ≠ ⟨who, .redis (.setNx (claimKey req)), .ok true⟩

/-- The call was told that its payment is a duplicate. -/
def Duplicate {α : Type} (outcome : Except Err α) : Prop :=
  ∃ error, outcome = .error (.facilitator error) ∧ error.code = "duplicate_payment"

section Sat

variable {who : ι} {req : VerifyRequest} {rawBody : Json} {nowMs : Nat} {network : NetworkConfig}
  {asset : FoundAsset} {requestId : String} {events : List (Event interface Err ι)}

theorem checkAuthorization_of_checked (h : Checked host registry req nowMs network asset) {nowSec : Nat}
    (hbefore : nowSec < req.auth.validBefore) : checkAuthorization req requestId nowSec = .ok () := by
  have hrecipient : ¬ req.auth.to.lower ≠ req.recipient.lower := not_not.mpr h.recipient
  simp only [checkAuthorization, if_neg (not_le.mpr hbefore), if_neg hrecipient,
    if_neg (not_lt.mpr h.amount)]

/-- Whichever of its two keys it finds, the payment is a duplicate. -/
theorem duplicate_claimPayment :
    (claimPayment req.auth.nonce.text (computeSignatureHash req.payload.signature.text) requestId).Sat
      (traced who (replayAnswers req who)) events fun _ outcome => Duplicate outcome := by
  rw [claimPayment, claimNonce, claimSignatureHash, releaseNonce, Program.sat_bind', sat_redis_setNx]
  refine ⟨trivial, ?_⟩
  rintro (error | fresh) _ ⟨⟨hok, -⟩, rfl⟩
  · cases hok
  rw [Program.thenSat_ok]
  cases fresh with
  | false => exact ⟨_, rfl, rfl⟩
  | true =>
      simp only [if_true, Program.sat_bind', sat_redis_setNx]
      refine ⟨trivial, ?_⟩
      rintro (error | fresh) _ ⟨⟨hok, -, hheld⟩, rfl⟩
      · cases hok
      rw [Program.thenSat_ok]
      cases fresh with
      | true => exact absurd rfl hheld
      | false =>
          simp only [Bool.false_eq_true, if_false, Program.sat_bind', sat_redis_del]
          refine ⟨trivial, ?_⟩
          rintro (error | released) _ ⟨⟨hok, -⟩, rfl⟩
          · cases hok
          · exact ⟨_, rfl, rfl⟩

/-- A payment that has once passed the checks passes them again, up to its keys. -/
theorem duplicate_verifyPayment (hparse : parseVerifyRequest rawBody = .ok req)
    (hchecked : Checked host registry req nowMs network asset) :
    (verifyPayment host registry rawBody).Sat (traced who (replayAnswers req who)) events
      fun _ outcome => Duplicate outcome := by
  simp only [verifyPayment, hparse]
  rw [verifyParsed, generateUlid, Program.sat_bind', sat_op]
  refine ⟨trivial, ?_⟩
  rintro (error | requestId) _ ⟨⟨hok, -⟩, rfl⟩
  · cases hok
  rw [Program.thenSat_ok]
  simp only [hchecked.supported, hchecked.listed]
  rw [verifyChecked, dateNow, Program.sat_bind', sat_op]
  refine ⟨trivial, ?_⟩
  rintro (error | nowMs) _ ⟨⟨hok, hbefore, -⟩, rfl⟩
  · cases hok
  rw [Program.thenSat_ok, checkAuthorization_of_checked hchecked (hbefore nowMs rfl), Program.sat_bind',
    Program.sat_ofExcept, Program.thenSat_ok, Program.sat_bind']
  apply duplicate_claimPayment.mono
  rintro events' outcome ⟨error, rfl, hcode⟩
  exact ⟨error, rfl, hcode⟩

end Sat

variable [DecidableEq ι] {start middle cfg : Config (machine ι faults) VerifyResult}

omit [DecidableEq ι] in
/-- What is remembered of a replay says how its operations are answered. -/
theorem replayAnswers_of_remembered {req : VerifyRequest} {who : ι} {op : Op} {outcome : Outcome}
    {answer : Except Err (interface.Ans op)} {world : World ι}
    (hexec : (machine ι faults).exec who cfg.world op outcome = some (answer, world))
    (h : Remembered req cfg ⟨who, op, answer⟩) : replayAnswers req who op answer := by
  refine ⟨h.answered, h.inTime, fun hfresh => ?_⟩
  cases hfresh
  obtain ⟨⟨fate, hcommand⟩, -⟩ := exec_redis hexec
  have hheld := h.claimed rfl
  rcases KeyStore.exec_setNx_cases hcommand with ⟨-, hnone, -⟩ | ⟨hanswer, -⟩ | ⟨error, hanswer, -⟩
  · exact hheld hnone
  · cases hanswer
  · cases hanswer

theorem Accepted.checked (hstart : VerifyStart host registry body start)
    (hreach : Config.Reachable Config.anyStep start cfg) {who : ι} {req : VerifyRequest}
    (haccepted : Accepted body cfg who req) :
    ∃ nowMs network asset, Checked host registry req nowMs network asset := by
  obtain ⟨hparse, result, hresult⟩ := haccepted
  have hsat : (start.calls who).Sat (anyAnswers who) (start.eventsOf who) fun events outcome =>
      ∀ result, outcome = .ok result → ∃ req nowMs network asset,
        parseVerifyRequest (body who) = .ok req ∧ firstReading events = some nowMs ∧
          Checked host registry req nowMs network asset := by
    rw [hstart.calls, Config.eventsOf, hstart.history]
    exact checked_verifyPayment host registry (body who)
  obtain ⟨req', nowMs, network, asset, hparse', -, hchecked⟩ :=
    hreach.traced_result (fun _ _ _ _ _ _ _ => trivial) hsat hresult result rfl
  obtain rfl := Except.ok.inj (hparse.symm.trans hparse')
  exact ⟨nowMs, network, asset, hchecked⟩

theorem Accepted.eq_of_spelledAlike (hstart : VerifyStart host registry body start)
    (hreach : Config.Reachable Config.anyStep start cfg) (halike : SpelledAlike host registry body)
    {who other : ι} {req req' : VerifyRequest} (hwho : Accepted body cfg who req)
    (hother : Accepted body cfg other req') (hfrom : req.auth.from.bytes = req'.auth.from.bytes)
    (hnonce : req.auth.nonce.bytes = req'.auth.nonce.bytes) : who = other := by
  obtain ⟨nowMs, network, asset, hchecked⟩ := hwho.checked hstart hreach
  obtain ⟨nowMs', network', asset', hchecked'⟩ := hother.checked hstart hreach
  obtain ⟨hnonces, hsignatures, -⟩ := accepted_once_without_keys hstart hreach
  rcases halike who other req req' _ _ _ _ _ _ hwho.1 hother.1 hchecked hchecked' hfrom hnonce with
    htext | hbytes
  · exact hnonces who other req req' hwho hother htext
  · exact hsignatures who other req req' hwho hother hbytes

/-- **What is left of the anti-replay.** In every run in which the keys stay, or the payments of one payer
and one nonce are spelled alike or signed alike, no two calls are accepted with one nonce from one payer.
And if the steps of its replays are remembered, a payment that was accepted is told to be a duplicate. -/
theorem durable_replay (hstart : VerifyStart host registry body start)
    (hmiddle : Config.Reachable Config.anyStep start middle)
    (hreach : Config.Reachable (replaysRemembered body middle) middle cfg) :
    (faults.keysVanish = false ∨ SpelledAlike host registry body →
      ∀ who other req req', Accepted body cfg who req → Accepted body cfg other req' →
        req.auth.from.bytes = req'.auth.from.bytes → req.auth.nonce.bytes = req'.auth.nonce.bytes →
          who = other) ∧
    ∀ who, Replays body middle who → ∀ outcome, (cfg.calls who).result? = some outcome →
      Duplicate outcome := by
  have hrun : Config.Reachable Config.anyStep start cfg :=
    hmiddle.trans (hreach.mono fun _ _ _ => trivial)
  constructor
  · rintro (hkeys | halike) who other req req' hwho hother hfrom hnonce
    · obtain ⟨held, hfollows⟩ := keys_owned hkeys hstart hrun
      exact hfollows.eq_of_nonce hwho hother hnonce
    · exact hwho.eq_of_spelledAlike hstart hrun halike hother hfrom hnonce
  · rintro who hreplays outcome hresult
    obtain ⟨hnew, earlier, req, hbody, haccepted⟩ := id hreplays
    obtain ⟨nowMs, network, asset, hchecked⟩ := haccepted.checked hstart hmiddle
    have hparse : parseVerifyRequest (body who) = .ok req := by
      rw [← hbody]
      exact haccepted.1
    have hsat : (middle.calls who).Sat (traced who (replayAnswers req who)) (middle.eventsOf who)
        fun _ outcome => Duplicate outcome := by
      rw [hmiddle.calls_of_notStarted hnew, hstart.calls]
      exact duplicate_verifyPayment hparse hchecked
    have hadmits : ∀ (cfg : Config (machine ι faults) VerifyResult) op outcome answer world,
        (machine ι faults).exec who cfg.world op outcome = some (answer, world) →
        replaysRemembered body middle cfg ⟨who, op, answer⟩ → replayAnswers req who op answer :=
      fun cfg op outcome answer world hexec hgood =>
        replayAnswers_of_remembered hexec (hgood hreplays req hparse)
    exact hreach.traced_result hadmits hsat hresult

end Replays

/-- Two calls, in a deployment whose keys can vanish. -/
def forgottenStart (body : Fin 2 → VerifyRequest) :
    Config (machine (Fin 2) ⟨true, false⟩) VerifyResult where
  world := emptyWorld _
  calls who := verifyParsed trustingHost baseRegistry (body who)
  history := []

/-- The first call is accepted, its keys vanish, and the second one passes the checks. -/
def forgottenSchedule (first second : Fin 2) (req : VerifyRequest) :
    List (Move (machine (Fin 2) ⟨true, false⟩)) :=
  [.call first (.text "req-0"), .call first (.time 1700000000000), .call first (.fate .done),
    .call first (.fate .done), .call first (.time 1700000000000), .call first (.text "ver-0"),
    .call first (.fate .done), .env (.vanish (nonceKey req.auth.nonce.text)),
    .env (.vanish (signatureKey (computeSignatureHash req.payload.signature.text))),
    .call second (.text "req-1"), .call second (.time 1700000000000), .call second (.fate .done),
    .call second (.fate .done), .call second (.time 1700000000000), .call second (.text "ver-1"),
    .call second (.fate .done)]

theorem verifyStart_forgotten (body : Fin 2 → VerifyRequest) :
    VerifyStart trustingHost baseRegistry (fun who => (body who).toJson) (forgottenStart body) :=
  ⟨fun _ => (verifyPayment_toJson _ _ _).symm, rfl, by simp [forgottenStart, emptyWorld]⟩

theorem accepted_of_any (body : Fin 2 → VerifyRequest) {who : Fin 2} {faults : Faults}
    {cfg : Config (machine (Fin 2) faults) VerifyResult}
    (h : (cfg.calls who).result?.any Except.isOk = true) :
    Accepted (fun who => (body who).toJson) cfg who (body who) := by
  refine ⟨parseVerifyRequest_toJson _, ?_⟩
  obtain ⟨outcome, houtcome, hok⟩ := (Option.any_eq_true _ _).mp h
  cases outcome with
  | error error => cases hok
  | ok result => exact ⟨result, houtcome⟩

/-- A call that has ended with a failure of the service. -/
def failedInside : Except Err VerifyResult → Bool
  | .error (.facilitator error) => error.code = "internal_error"
  | _ => false

/-- The unique columns refuse the replay, and it gives back the keys it has claimed. -/
theorem exists_refused_replay :
    ∃ cfg : Config (machine (Fin 2) ⟨true, false⟩) VerifyResult,
      Config.Reachable Config.anyStep (forgottenStart fun _ => firstPayment 0) cfg ∧
      Accepted (fun _ => (firstPayment 0).toJson) cfg 0 (firstPayment 0) ∧
      (cfg.calls 1).result?.any failedInside = true := by
  obtain ⟨cfg, hreach, hreturned⟩ := Config.exists_reachable_of_run
    (show ((forgottenStart fun _ => firstPayment 0).run (forgottenSchedule 0 1 (firstPayment 0) ++
        [.call 1 (.fate .done), .call 1 (.fate .done)])).map
      (fun cfg => (cfg.calls 0).result?.any Except.isOk && (cfg.calls 1).result?.any failedInside)
        = some true by
      simp only [forgottenStart, forgottenSchedule, verifyParsed, verifyChecked, claimPayment, claimNonce,
        claimSignatureHash, releaseClaims, releaseNonce, releaseSignatureHash, nonceKey, signatureKey,
        computeSignatureHash, lowerCase_firstPayment]
      decide +kernel)
  obtain ⟨hfirst, hsecond⟩ := Bool.and_eq_true_iff.mp hreturned
  exact ⟨cfg, hreach, accepted_of_any (fun _ => firstPayment 0) hfirst, hsecond⟩

/-- The first call is accepted and its nonce vanishes, before the second one begins. -/
def nonceLostSchedule (first : Fin 2) (req : VerifyRequest) :
    List (Move (machine (Fin 2) ⟨true, false⟩)) :=
  [.call first (.text "req-0"), .call first (.time 1700000000000), .call first (.fate .done),
    .call first (.fate .done), .call first (.time 1700000000000), .call first (.text "ver-0"),
    .call first (.fate .done), .env (.vanish (nonceKey req.auth.nonce.text))]

/-- It claims the nonce, finds the signature, and gives the nonce back. -/
def refusedSchedule (second : Fin 2) : List (Move (machine (Fin 2) ⟨true, false⟩)) :=
  [.call second (.text "req-1"), .call second (.time 1700000000000), .call second (.fate .done),
    .call second (.fate .done), .call second (.fate .done)]

/-- The second claim of a call. -/
def claimsSignature : Op → Bool
  | .redis (.setNx (.sig _)) => true
  | _ => false

def remembered? (req : VerifyRequest) (cfg : Config (machine (Fin 2) ⟨true, false⟩) VerifyResult)
    (event : Event interface Err (Fin 2)) : Bool :=
  event.answer.isOk && (reading? event).all (· / 1000 < req.auth.validBefore) &&
    (!claimsSignature event.op || (cfg.world.redis (claimKey req)).isSome)

theorem remembered_of_remembered? {req : VerifyRequest}
    {cfg : Config (machine (Fin 2) ⟨true, false⟩) VerifyResult} {event : Event interface Err (Fin 2)}
    (h : remembered? req cfg event = true) : Remembered req cfg event := by
  obtain ⟨hboth, hheld⟩ := Bool.and_eq_true_iff.mp h
  obtain ⟨hanswered, hbefore⟩ := Bool.and_eq_true_iff.mp hboth
  refine ⟨hanswered, fun nowMs hreading => ?_, fun hop => ?_⟩
  · rw [Option.mem_def.mp hreading] at hbefore
    exact of_decide_eq_true hbefore
  · rw [hop] at hheld
    exact Option.isSome_iff_ne_none.mp hheld

/-- A call that has not begun, after one that was accepted. -/
def acceptedAlone (first second : Fin 2) (cfg : Config (machine (Fin 2) ⟨true, false⟩) VerifyResult) :
    Bool :=
  (cfg.calls first).result?.any Except.isOk && cfg.history.all (·.who ≠ second)

theorem durable_replay_nonceLost :
    ∃ cfg : Config (machine (Fin 2) ⟨true, false⟩) VerifyResult,
      Accepted (fun _ => (firstPayment 0).toJson) cfg 0 (firstPayment 0) ∧
      ∃ outcome, (cfg.calls 1).result? = some outcome ∧ Duplicate outcome := by
  have hbegun : (((forgottenStart fun _ => firstPayment 0).run (nonceLostSchedule 0 (firstPayment 0))).map
      (acceptedAlone 0 1)) = some true := by
    simp only [forgottenStart, nonceLostSchedule, verifyParsed, verifyChecked, claimPayment, claimNonce,
      claimSignatureHash, releaseClaims, releaseNonce, releaseSignatureHash, nonceKey, signatureKey,
      computeSignatureHash, lowerCase_firstPayment]
    decide +kernel
  have hended : ((((forgottenStart fun _ => firstPayment 0).run (nonceLostSchedule 0 (firstPayment 0))).bind
      fun middle => middle.runChecked (remembered? (firstPayment 0)) (refusedSchedule 1)).map
        fun cfg => (cfg.calls 0).result?.any Except.isOk && (cfg.calls 1).result?.isSome) = some true := by
    unfold remembered? claimKey
    simp only [forgottenStart, nonceLostSchedule, verifyParsed, verifyChecked, claimPayment, claimNonce,
      claimSignatureHash, releaseClaims, releaseNonce, releaseSignatureHash, nonceKey, signatureKey,
      computeSignatureHash, lowerCase_firstPayment]
    decide +kernel
  obtain ⟨middle, hrun, hmiddle⟩ := Option.map_eq_some_iff.mp hbegun
  obtain ⟨hfirst, hnew⟩ := Bool.and_eq_true_iff.mp hmiddle
  rw [hrun, Option.bind_some] at hended
  obtain ⟨cfg, hchecked, hcfg⟩ := Option.map_eq_some_iff.mp hended
  obtain ⟨haccepted, hdone⟩ := Bool.and_eq_true_iff.mp hcfg
  obtain ⟨outcome, houtcome⟩ := Option.isSome_iff_exists.mp hdone
  have hreach : Config.Reachable (replaysRemembered (fun _ => (firstPayment 0).toJson) middle) middle cfg := by
    apply Config.reachable_of_runChecked _ hchecked
    intro cfg event htest _ req hparse
    rw [parseVerifyRequest_toJson] at hparse
    obtain rfl := Except.ok.inj hparse
    exact remembered_of_remembered? htest
  have hreplays : Replays (fun _ => (firstPayment 0).toJson) middle 1 :=
    ⟨fun event hevent => of_decide_eq_true (List.all_eq_true.mp hnew event hevent), 0, _, rfl,
      accepted_of_any (fun _ => firstPayment 0) hfirst⟩
  exact ⟨cfg, accepted_of_any (fun _ => firstPayment 0) haccepted, outcome, houtcome,
    (durable_replay (verifyStart_forgotten fun _ => firstPayment 0) (Config.reachable_of_run hrun)
      hreach).2 1 hreplays outcome houtcome⟩

/-- Written in the other case, a nonce whose keys have vanished is accepted again, from the same
payer; in the same case, the unique columns refuse it, as a failure of the service. -/
theorem not_duplicate_without_keys :
    (¬∀ start cfg : Config (machine (Fin 2) ⟨true, false⟩) VerifyResult,
      VerifyStart trustingHost baseRegistry (fun who => (twoSpellings who).toJson) start →
      Config.Reachable Config.anyStep start cfg →
      ∀ who other req req', Accepted (fun who => (twoSpellings who).toJson) cfg who req →
        Accepted (fun who => (twoSpellings who).toJson) cfg other req' →
        req.auth.from.bytes = req'.auth.from.bytes → req.auth.nonce.bytes = req'.auth.nonce.bytes →
        who = other) ∧
    ¬∀ start cfg : Config (machine (Fin 2) ⟨true, false⟩) VerifyResult,
      VerifyStart trustingHost baseRegistry (fun _ => (firstPayment 0).toJson) start →
      Config.Reachable Config.anyStep start cfg →
      ∀ who other req error, Accepted (fun _ => (firstPayment 0).toJson) cfg who req →
        (cfg.calls other).result? = some (.error (.facilitator error)) →
        error.code = "duplicate_payment" := by
  constructor
  · intro hclaim
    obtain ⟨cfg, hreach, hreturned⟩ := Config.exists_reachable_of_run
      (show ((forgottenStart twoSpellings).run (forgottenSchedule 0 1 (twoSpellings 0))).map
        (fun cfg => (cfg.calls 0).result?.any Except.isOk && (cfg.calls 1).result?.any Except.isOk)
          = some true by
        simp only [forgottenStart, forgottenSchedule, verifyParsed, verifyChecked, claimPayment, claimNonce,
          claimSignatureHash, releaseClaims, releaseNonce, releaseSignatureHash, nonceKey, signatureKey,
          computeSignatureHash, lowerCase_twoSpellings]
        decide +kernel)
    obtain ⟨hfirst, hsecond⟩ := Bool.and_eq_true_iff.mp hreturned
    have hfrom : (twoSpellings 0).auth.from.bytes = (twoSpellings 1).auth.from.bytes := by
      decide +kernel
    have hnonce : (twoSpellings 0).auth.nonce.bytes = (twoSpellings 1).auth.nonce.bytes := by
      decide +kernel
    have hsame := hclaim _ cfg (verifyStart_forgotten twoSpellings) hreach 0 1 _ _
      (accepted_of_any _ hfirst) (accepted_of_any _ hsecond) hfrom hnonce
    exact absurd hsame (by decide)
  · intro hclaim
    obtain ⟨cfg, hreach, haccepted, hfailed⟩ := exists_refused_replay
    obtain ⟨outcome, houtcome, hcode⟩ := (Option.any_eq_true _ _).mp hfailed
    rcases outcome with (error | message) | result
    · have hsame := hclaim _ cfg (verifyStart_forgotten fun _ => firstPayment 0) hreach 0 1 _ _
        haccepted houtcome
      rw [of_decide_eq_true hcode] at hsame
      exact absurd hsame (by decide)
    · cases hcode
    · cases hcode

end Payment

end FacilitatorX402
