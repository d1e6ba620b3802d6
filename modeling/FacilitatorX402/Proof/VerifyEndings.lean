import FacilitatorX402.Library.Sequential
import FacilitatorX402.Proof.ServiceStages

/-!
# How a call of `runVerify` ends

A call that runs alone, with Redis answering every command and the database doing what a pattern says.
`Ends` has one case for each exit of the source: the world it leaves and the result it has.
-/

namespace FacilitatorX402

open Interact KeyStore

/-- The operation fails. -/
def Outcome.Fails (outcome : Outcome) : Prop := ∃ error, outcome = .fate (.failed error)

/-- The statement is carried out, if its constraints hold. -/
def Outcome.Applied (outcome : Outcome) : Prop :=
  outcome = .fate .done ∨ ∃ error, outcome = .fate (.lost error)

/-- What a statement does, in terms of its outcome. -/
theorem returning_ends {W α : Type} {value : α} {world world' after : W} {admissible : Bool}
    {outcome : Outcome} {answer : Except Err α}
    (h : returning value world world' admissible outcome = some (answer, after)) :
    (admissible = true ∧ outcome.Applied ∧ after = world' ∧
      (outcome = .fate .done ∧ answer = .ok value ∨
        outcome ≠ .fate .done ∧ ∃ error, answer = .error error)) ∨
      (¬(admissible = true ∧ outcome.Applied) ∧ after = world ∧ ∃ error, answer = .error error) := by
  cases outcome with
  | fate fate =>
      simp only [returning] at h
      split at h
      · rename_i hadmissible
        obtain ⟨rfl, rfl⟩ := Prod.mk.inj (Option.some.inj h)
        cases fate with
        | done => exact .inl ⟨hadmissible, .inl rfl, rfl, .inl ⟨rfl, rfl⟩⟩
        | lost error =>
            exact .inl ⟨hadmissible, .inr ⟨error, rfl⟩, rfl, .inr ⟨by simp, error, rfl⟩⟩
        | failed error =>
            refine .inr ⟨?_, rfl, error, rfl⟩
            rintro ⟨-, happlied | ⟨lost, happlied⟩⟩ <;> cases happlied
      · rename_i hinadmissible
        obtain ⟨rfl, rfl⟩ := Prod.mk.inj (Option.some.inj h)
        exact .inr ⟨fun hboth => hinadmissible hboth.1, rfl, _, rfl⟩
  | _ => cases h

namespace Service

/-- What becomes of the statements of one call, and the id its row is given. -/
structure Pattern where
  lookup : Outcome
  network : Outcome
  verificationId : String
  upsert : Outcome
  create : Outcome

/-- Redis answers, the clock shows a time value, and the database follows the pattern. -/
def Pattern.fair {ι : Type} {faults : Faults} (pattern : Pattern) : Fair (machine ι faults) :=
  fun _ op outcome =>
    match op with
    | .redis _ => outcome = .fate .done
    | .now => ∃ ms : Nat, (ms : Int) ≤ maxTimeValue ∧ outcome = .time ms
    | .generateId => outcome = .text pattern.verificationId
    | .findReplay _ _ => outcome = pattern.lookup
    | .findNetwork _ => outcome = pattern.network
    | .upsertPaymentRequest _ => outcome = pattern.upsert
    | .createVerification _ => outcome = pattern.create
    | _ => True

section Rules

variable {ι : Type} {faults : Faults} {pattern : Pattern} {who : ι} {world : World ι}

/-- A program that runs alone from this world meets the postcondition. -/
abbrev SatAlone {α : Type} (pattern : Pattern) (faults : Faults) (who : ι)
    (program : ServiceProgram α) (world : World ι) (post : World ι → Except Err α → Prop) : Prop :=
  program.Sat (solo (machine ι faults) pattern.fair who) world post

theorem alone_redis {command : KeyStore.Op Key} {answer : Except Err (interface.Ans (.redis command))}
    {world' : World ι}
    (h : (solo (machine ι faults) pattern.fair who).trans world (.redis command) answer world') :
    (answer, world'.redis) = KeyStore.exec who world.redis command .done ∧
      world' = { world with redis := world'.redis } := by
  obtain ⟨outcome, hfair, hexec⟩ := h
  obtain ⟨⟨answer', redis⟩, hredis, heq⟩ := Option.map_eq_some_iff.mp hexec
  obtain ⟨rfl, rfl⟩ := Prod.mk.inj heq
  obtain rfl : outcome = .fate .done := hfair
  exact ⟨(Option.some.inj hredis).symm, rfl⟩

theorem alone_setNx_absent {key : Key} {post : World ι → Except Err Bool → Prop}
    (habsent : world.redis key = none)
    (hpost : post { world with redis := world.redis.put key who } (.ok true)) :
    SatAlone pattern faults who (redisSetNx key) world post := by
  rw [SatAlone, sat_redisSetNx]
  refine ⟨trivial, fun answer world' htrans => ?_⟩
  obtain ⟨hexec, hworld⟩ := alone_redis htrans
  simp only [KeyStore.exec, habsent] at hexec
  obtain ⟨rfl, hredis⟩ := Prod.mk.inj hexec
  rw [hworld, hredis]
  exact hpost

theorem alone_setNx_present {key : Key} {post : World ι → Except Err Bool → Prop}
    (hpresent : world.redis key ≠ none) (hpost : post world (.ok false)) :
    SatAlone pattern faults who (redisSetNx key) world post := by
  rw [SatAlone, sat_redisSetNx]
  refine ⟨trivial, fun answer world' htrans => ?_⟩
  obtain ⟨holder, hholder⟩ := Option.ne_none_iff_exists'.mp hpresent
  obtain ⟨hexec, hworld⟩ := alone_redis htrans
  simp only [KeyStore.exec, hholder] at hexec
  obtain ⟨rfl, hredis⟩ := Prod.mk.inj hexec
  rw [hworld, hredis]
  exact hpost

theorem alone_del {key : Key} {post : World ι → Except Err Unit → Prop}
    (hpost : post { world with redis := world.redis.erase key } (.ok ())) :
    SatAlone pattern faults who (redisDel key) world post := by
  rw [SatAlone, sat_redisDel]
  refine ⟨trivial, fun answer world' htrans => ?_⟩
  obtain ⟨hexec, hworld⟩ := alone_redis htrans
  obtain ⟨rfl, hredis⟩ := Prod.mk.inj hexec
  rw [hworld, hredis]
  exact hpost

theorem alone_promiseAll {α β : Type} {first : ServiceProgram α} {second : ServiceProgram β}
    {post : World ι → Except Err (α × β) → Prop}
    (hfirst : SatAlone pattern faults who first world fun world x =>
      SatAlone pattern faults who second world fun world y => post world (bothOutcomes true x y))
    (hsecond : SatAlone pattern faults who second world fun world y =>
      SatAlone pattern faults who first world fun world x => post world (bothOutcomes false x y)) :
    SatAlone pattern faults who (promiseAll first second) world post := by
  rw [SatAlone, sat_promiseAll]
  refine ⟨trivial, ?_⟩
  rintro answer world' ⟨outcome, -, hexec⟩
  cases outcome with
  | pick index =>
      obtain ⟨rfl, rfl⟩ := Prod.mk.inj (Option.some.inj hexec)
      cases decide (index = 0) with
      | true => exact hfirst
      | false => exact hsecond
  | _ => cases hexec

theorem alone_now {post : World ι → Except Err Nat → Prop} (hpost : ∀ ms, post world (.ok ms)) :
    SatAlone pattern faults who dateNow world post := by
  rw [SatAlone, dateNow, sat_op]
  refine ⟨trivial, ?_⟩
  rintro answer world' ⟨outcome, ⟨ms, -, rfl⟩, hexec⟩
  obtain ⟨rfl, rfl⟩ := Prod.mk.inj (Option.some.inj hexec)
  exact hpost ms

theorem alone_reject {requestId code message : String} {httpStatus : Nat}
    {post : World ι → Except Err VerifyResponse → Prop}
    (hpost : ∀ result : VerifyRejected, result.code = code → post world (.ok (.rejected result))) :
    SatAlone pattern faults who (reject requestId code message httpStatus) world post := by
  rw [SatAlone, reject, Program.sat_bind']
  apply alone_now
  intro ms
  exact hpost _ rfl

theorem alone_ulid {post : World ι → Except Err String → Prop}
    (hpost : post world (.ok pattern.verificationId)) :
    SatAlone pattern faults who ulid world post := by
  rw [SatAlone, ulid, sat_op]
  refine ⟨trivial, ?_⟩
  rintro answer world' ⟨outcome, rfl, hexec⟩
  obtain ⟨rfl, rfl⟩ := Prod.mk.inj (Option.some.inj hexec)
  exact hpost

/-! ### The claims -/

theorem nonce_ne_sig (nonce signatureHash : String) : Key.nonce nonce ≠ .sig signatureHash := nofun

/-- Neither key of the payment is there. -/
def Unclaimed (world : World ι) (nonce signatureHash : String) : Prop :=
  world.redis (.nonce nonce) = none ∧ world.redis (.sig signatureHash) = none

/-- The nonce key is there, and the signature key is not. -/
def HalfClaimed (world : World ι) (nonce signatureHash : String) : Prop :=
  world.redis (.nonce nonce) ≠ none ∧ world.redis (.sig signatureHash) = none

/-- The call has put both keys. -/
def World.claimed (world : World ι) (who : ι) (nonce signatureHash : String) : World ι :=
  { world with redis := (world.redis.put (.nonce nonce) who).put (.sig signatureHash) who }

/-- The call has put the signature key alone. -/
def World.halfClaimed (world : World ι) (who : ι) (signatureHash : String) : World ι :=
  { world with redis := world.redis.put (.sig signatureHash) who }

theorem alone_claimNonceRedis {nonce signatureHash : String}
    {post : World ι → Except Err ReplayCheckResult → Prop}
    (hfresh : Unclaimed world nonce signatureHash →
      post (world.claimed who nonce signatureHash) (.ok none))
    (hhalf : HalfClaimed world nonce signatureHash →
      post (world.halfClaimed who signatureHash) (.ok (some .nonceUsed)))
    (hpresent : world.redis (.sig signatureHash) ≠ none →
      ∀ reason, post world (.ok (some reason))) :
    SatAlone pattern faults who (claimNonceRedis nonce signatureHash) world post := by
  have hne := nonce_ne_sig nonce signatureHash
  rw [SatAlone, claimNonceRedis, Program.sat_bind']
  by_cases hsignature : world.redis (.sig signatureHash) = none
  · by_cases hnonce : world.redis (.nonce nonce) = none
    · apply alone_promiseAll
      · apply alone_setNx_absent hnonce
        apply alone_setNx_absent
        · exact (Store.put_of_ne world.redis hne.symm who).trans hsignature
        · exact hfresh ⟨hnonce, hsignature⟩
      · apply alone_setNx_absent hsignature
        apply alone_setNx_absent
        · exact (Store.put_of_ne world.redis hne who).trans hnonce
        · dsimp only
          rw [← Store.put_comm _ hne]
          exact hfresh ⟨hnonce, hsignature⟩
    · apply alone_promiseAll
      · apply alone_setNx_present hnonce
        exact alone_setNx_absent hsignature (hhalf ⟨hnonce, hsignature⟩)
      · apply alone_setNx_absent hsignature
        apply alone_setNx_present
        · exact fun habsent => hnonce ((Store.put_of_ne world.redis hne who).symm.trans habsent)
        · exact hhalf ⟨hnonce, hsignature⟩
  · by_cases hnonce : world.redis (.nonce nonce) = none
    · have hback : SatAlone pattern faults who (redisDel (.nonce nonce) >>= fun _ =>
          (pure (some ReplayReason.signatureUsed) : ServiceProgram ReplayCheckResult))
          { world with redis := world.redis.put (.nonce nonce) who } post := by
        rw [SatAlone, Program.sat_bind']
        apply alone_del
        dsimp only
        rw [Store.erase_put _ hnonce]
        exact hpresent hsignature .signatureUsed
      apply alone_promiseAll
      · apply alone_setNx_absent hnonce
        apply alone_setNx_present
        · exact fun habsent => hsignature ((Store.put_of_ne world.redis hne.symm who).symm.trans habsent)
        · exact hback
      · apply alone_setNx_present hsignature
        exact alone_setNx_absent hnonce hback
    · apply alone_promiseAll
      · apply alone_setNx_present hnonce
        exact alone_setNx_present hsignature (hpresent hsignature .nonceUsed)
      · apply alone_setNx_present hsignature
        exact alone_setNx_present hnonce (hpresent hsignature .nonceUsed)

/-- A call gives back what it has put. -/
theorem alone_releaseNonceRedis {nonce signatureHash : String} {db : Db}
    {post : World ι → Except Err Unit → Prop} (hunclaimed : Unclaimed world nonce signatureHash)
    (hpost : post { world with db := db } (.ok ())) :
    SatAlone pattern faults who (releaseNonceRedis nonce signatureHash)
      { world.claimed who nonce signatureHash with db := db } post := by
  have hne := nonce_ne_sig nonce signatureHash
  have hback : (((world.claimed who nonce signatureHash).redis.erase (.nonce nonce)).erase
      (.sig signatureHash)) = world.redis := by
    rw [World.claimed, Store.erase_put_comm _ hne, Store.erase_put _ hunclaimed.1,
      Store.erase_put _ hunclaimed.2]
  rw [SatAlone, releaseNonceRedis, Program.sat_bind']
  apply alone_promiseAll
  · apply alone_del
    apply alone_del
    dsimp only
    rw [hback]
    exact hpost
  · apply alone_del
    apply alone_del
    dsimp only
    rw [← Store.erase_comm _ hne, hback]
    exact hpost

/-- The lookup fails, or it says whether a row matches. -/
theorem alone_checkReplayPostgres {nonce signatureHash : String}
    {post : World ι → Except Err ReplayCheckResult → Prop}
    (hfails : pattern.lookup.Fails → ∀ error, post world (.error error))
    (hfresh : ¬pattern.lookup.Fails → world.db.replays nonce signatureHash = [] →
      post world (.ok none))
    (hreplayed : ¬pattern.lookup.Fails → world.db.replays nonce signatureHash ≠ [] →
      ∀ reason, post world (.ok (some reason))) :
    SatAlone pattern faults who (checkReplayPostgres nonce signatureHash) world post := by
  rw [SatAlone, checkReplayPostgres, findReplay, Program.sat_bind', sat_op]
  refine ⟨trivial, ?_⟩
  rintro answer world' ⟨outcome, rfl, hexec⟩
  simp only [exec, findFirst] at hexec
  split at hexec
  · rename_i index hlookup
    have hanswered : ¬pattern.lookup.Fails := by
      rintro ⟨error, hfailed⟩
      rw [hlookup] at hfailed
      cases hfailed
    split at hexec
    · rename_i hempty
      obtain ⟨rfl, rfl⟩ := Prod.mk.inj (Option.some.inj hexec)
      exact hfresh hanswered (List.isEmpty_iff.mp hempty)
    · rename_i hrows
      obtain ⟨row, -, heq⟩ := Option.map_eq_some_iff.mp hexec
      obtain ⟨rfl, rfl⟩ := Prod.mk.inj heq
      rw [List.isEmpty_iff] at hrows
      rw [Program.thenSat_ok]
      dsimp only
      split
      · exact hreplayed hanswered hrows .nonceUsed
      · exact hreplayed hanswered hrows .signatureUsed
  · rename_i error hlookup
    obtain ⟨rfl, rfl⟩ := Prod.mk.inj (Option.some.inj hexec)
    exact hfails ⟨error, hlookup⟩ error
  · cases hexec

/-! ### The persistence -/

/-- The request is upserted: its network is found, and the statement carried out. -/
def RequestUpserted (pattern : Pattern) (db : Db) (network : NetworkConfig) (body : VerifyRequest)
    (requestId : String) (record : Network) : Prop :=
  pattern.network = .fate .done ∧ db.networks.find? (·.chainId = network.chainId) = some record ∧
    db.canUpsert (paymentRequestRow body requestId record.id) = true ∧ pattern.upsert.Applied

/-- The rows of a request, once it is upserted. -/
abbrev Db.withRequest (db : Db) (body : VerifyRequest) (requestId : String) (record : Network) : Db :=
  db.upsertPaymentRequest (paymentRequestRow body requestId record.id)

/-- The row of the verification of a body. -/
abbrev rowOf (pattern : Pattern) (host : Host) (body : VerifyRequest) (requestId : String)
    (verdict : Verdict) : PaymentVerification :=
  verificationRow verdict pattern.verificationId requestId
    (hashSignature host body.payload.signature.text) body.auth.nonce.text

/-- The verification is added: its request is upserted, and the statement carried out. -/
def VerificationAdded (pattern : Pattern) (host : Host) (db : Db) (network : NetworkConfig)
    (body : VerifyRequest) (requestId : String) (verdict : Verdict) (record : Network) : Prop :=
  RequestUpserted pattern db network body requestId record ∧ pattern.upsert = .fate .done ∧
    (db.withRequest body requestId record).canVerify (rowOf pattern host body requestId verdict)
      = true ∧ pattern.create.Applied

/-- How the persistence ends: with the database it leaves, and whether it succeeds. -/
inductive PersistEnds (pattern : Pattern) (host : Host) (db : Db) (network : NetworkConfig)
    (body : VerifyRequest) (requestId : String) (verdict : Verdict) : Db → Bool → Prop
  | absent (h : ∀ record, ¬RequestUpserted pattern db network body requestId record) :
      PersistEnds pattern host db network body requestId verdict db false
  | upserted {record : Network} (hupserted : RequestUpserted pattern db network body requestId record)
      (h : ¬VerificationAdded pattern host db network body requestId verdict record) :
      PersistEnds pattern host db network body requestId verdict
        (db.withRequest body requestId record) false
  | added {record : Network}
      (hadded : VerificationAdded pattern host db network body requestId verdict record)
      {succeeds : Bool} (hanswer : succeeds = true ↔ pattern.create = .fate .done) :
      PersistEnds pattern host db network body requestId verdict
        ((db.withRequest body requestId record).createVerification
          (rowOf pattern host body requestId verdict)) succeeds

theorem Db.upserted_id (db : Db) (row : PaymentRequest) : (db.upserted row).id = row.id := by
  rw [upserted]
  cases hfind : db.requests.find? (·.id = row.id) with
  | none => rfl
  | some other =>
      have hid := List.find?_some hfind
      exact of_decide_eq_true hid

/-- The last statement, and the ids of the rows. -/
theorem alone_createVerification {host : Host} {requestId : String} {body : VerifyRequest}
    {network : NetworkConfig} {verdict : Verdict} {record : Network}
    {post : World ι → Except Err (String × String) → Prop}
    (hupserted : RequestUpserted pattern world.db network body requestId record)
    (hdone : pattern.upsert = .fate .done)
    (hfailed : ∀ db error, PersistEnds pattern host world.db network body requestId verdict db false →
      post { world with db := db } (.error error))
    (hstored : ∀ db, PersistEnds pattern host world.db network body requestId verdict db true →
      post { world with db := db } (.ok (requestId, pattern.verificationId))) :
    SatAlone pattern faults who (createVerification (rowOf pattern host body requestId verdict))
      { world with db := world.db.withRequest body requestId record }
      (Program.thenSat (solo (machine ι faults) pattern.fair who)
        (fun _ => pure (requestId, pattern.verificationId)) post) := by
  rw [SatAlone, createVerification, sat_op]
  refine ⟨trivial, ?_⟩
  rintro answer world' ⟨outcome, hcreate, hexec⟩
  obtain rfl : outcome = pattern.create := hcreate
  rcases returning_ends hexec with ⟨hcan, happlied, rfl, ⟨hcreate, rfl⟩ | ⟨hcreate, error, rfl⟩⟩ |
    ⟨hrefused, rfl, error, rfl⟩
  · exact hstored _ (.added ⟨hupserted, hdone, hcan, happlied⟩ ⟨fun _ => hcreate, fun _ => rfl⟩)
  · exact hfailed _ error (.added ⟨hupserted, hdone, hcan, happlied⟩
      ⟨(fun hsucceeds => by cases hsucceeds), fun hdone => absurd hdone hcreate⟩)
  · exact hfailed _ error (.upserted hupserted fun hadded => hrefused ⟨hadded.2.2.1, hadded.2.2.2⟩)

theorem alone_persistVerification {host : Host} {requestId : String} {body : VerifyRequest}
    {network : NetworkConfig} {verdict : Verdict} {post : World ι → Except Err (String × String) → Prop}
    (hfailed : ∀ db error, PersistEnds pattern host world.db network body requestId verdict db false →
      post { world with db := db } (.error error))
    (hstored : ∀ db, PersistEnds pattern host world.db network body requestId verdict db true →
      post { world with db := db } (.ok (requestId, pattern.verificationId))) :
    SatAlone pattern faults who (persistVerification requestId body network verdict
      (hashSignature host body.payload.signature.text) body.auth.nonce.text) world post := by
  rw [SatAlone, persistVerification, findNetwork, Program.sat_bind', sat_op]
  refine ⟨trivial, ?_⟩
  rintro answer world' ⟨outcome, hnetwork, hexec⟩
  obtain rfl : outcome = pattern.network := hnetwork
  simp only [exec, query] at hexec
  split at hexec
  · rename_i hdone
    obtain ⟨rfl, rfl⟩ := Prod.mk.inj (Option.some.inj hexec)
    rw [Program.thenSat_ok]
    cases hrecord : world.db.networks.find? (·.chainId = network.chainId) with
    | none =>
        apply hfailed world.db
        apply PersistEnds.absent
        rintro record ⟨-, hsome, -⟩
        rw [hrecord] at hsome
        cases hsome
    | some record =>
        dsimp only
        rw [upsertPaymentRequest, Program.sat_bind', sat_op]
        refine ⟨trivial, ?_⟩
        rintro answer world' ⟨outcome, hupsert, hexec⟩
        obtain rfl : outcome = pattern.upsert := hupsert
        rcases returning_ends hexec with ⟨hcan, happlied, rfl, hanswer⟩ |
          ⟨hrefused, rfl, error, rfl⟩
        · have hupserted : RequestUpserted pattern world.db network body requestId record :=
            ⟨hdone, hrecord, hcan, happlied⟩
          rcases hanswer with ⟨hupsert, rfl⟩ | ⟨hupsert, error, rfl⟩
          · rw [Program.thenSat_ok, Program.sat_bind']
            apply alone_ulid
            rw [Program.thenSat_ok, Program.sat_bind', Db.upserted_id]
            exact alone_createVerification hupserted hupsert hfailed hstored
          · exact hfailed _ error (.upserted hupserted fun hadded => hupsert hadded.2.1)
        · refine hfailed _ error (.absent ?_)
          rintro record' ⟨-, hrecord', hcan, happlied⟩
          obtain rfl := Option.some.inj (hrecord.symm.trans hrecord')
          exact hrefused ⟨hcan, happlied⟩
  · rename_i error hfail
    obtain ⟨rfl, rfl⟩ := Prod.mk.inj (Option.some.inj hexec)
    apply hfailed world.db
    apply PersistEnds.absent
    rintro record ⟨hdone, -⟩
    rw [hfail] at hdone
    cases hdone
  · cases hexec

/-! ### The exits -/

/-- The checks before the claims, at a time. -/
structure Passes (imports : Imports) (body : VerifyRequest) (nowMs : Nat) (network : NetworkConfig)
    (asset : AssetConfig) : Prop where
  supported : imports.networkRegistry.getNetworkByName body.network = some network
  listed : network.findAsset (imports.host.toUpperCase body.asset) = some asset
  checked : checkAuthorization imports.host body (nowMs / 1000) = .ok none

/-- The hash of the signature of a body. -/
abbrev hashOf (imports : Imports) (body : VerifyRequest) : String :=
  hashSignature imports.host body.payload.signature.text

/-- Neither the keys nor the rows know the payment, and the lookup says so. -/
structure Unused (pattern : Pattern) (imports : Imports) (body : VerifyRequest) (world : World ι) :
    Prop where
  unclaimed : Unclaimed world body.auth.nonce.text (hashOf imports body)
  answered : ¬pattern.lookup.Fails
  fresh : world.db.replays body.auth.nonce.text (hashOf imports body) = []

/-- The verdict of an invalid signature. -/
abbrev invalidVerdict (sigResult : SignatureResult) : Verdict :=
  { status := .rejected, errorCode := some "invalid_signature", reason := sigResult.error }

abbrev acceptedVerdict : Verdict := { status := .accepted, errorCode := none, reason := none }

/-- The exits of `verifyParsed`: the world a call leaves, and its result. -/
inductive Ends (pattern : Pattern) (imports : Imports) (who : ι) (body : VerifyRequest)
    (requestId : String) (nowMs : Nat) (world : World ι) :
    World ι → Except Err VerifyResponse → Prop
  | unchecked {result : VerifyRejected}
      (h : ∀ network asset, ¬Passes imports body nowMs network asset)
      (hcode : result.code ≠ "invalid_signature") :
      Ends pattern imports who body requestId nowMs world world (.ok (.rejected result))
  | halfClaimed {network : NetworkConfig} {asset : AssetConfig} {result : VerifyRejected}
      (hpasses : Passes imports body nowMs network asset)
      (hhalf : HalfClaimed world body.auth.nonce.text (hashOf imports body))
      (hcode : result.code = "duplicate_payment") :
      Ends pattern imports who body requestId nowMs world
        (world.halfClaimed who (hashOf imports body)) (.ok (.rejected result))
  | present {network : NetworkConfig} {asset : AssetConfig} {result : VerifyRejected}
      (hpasses : Passes imports body nowMs network asset)
      (hpresent : world.redis (.sig (hashOf imports body)) ≠ none)
      (hcode : result.code = "duplicate_payment") :
      Ends pattern imports who body requestId nowMs world world (.ok (.rejected result))
  | lookupFailed {network : NetworkConfig} {asset : AssetConfig} {error : Err}
      (hpasses : Passes imports body nowMs network asset)
      (hunclaimed : Unclaimed world body.auth.nonce.text (hashOf imports body))
      (hfails : pattern.lookup.Fails) :
      Ends pattern imports who body requestId nowMs world
        (world.claimed who body.auth.nonce.text (hashOf imports body)) (.error error)
  | replayed {network : NetworkConfig} {asset : AssetConfig} {result : VerifyRejected}
      (hpasses : Passes imports body nowMs network asset)
      (hunclaimed : Unclaimed world body.auth.nonce.text (hashOf imports body))
      (hanswered : ¬pattern.lookup.Fails)
      (hrows : world.db.replays body.auth.nonce.text (hashOf imports body) ≠ [])
      (hcode : result.code = "duplicate_payment") :
      Ends pattern imports who body requestId nowMs world world (.ok (.rejected result))
  | verifierThrew {network : NetworkConfig} {asset : AssetConfig} {error : Err}
      (hpasses : Passes imports body nowMs network asset)
      (hunused : Unused pattern imports body world)
      (hverify : imports.verifyTransferAuthorization body.auth body.payload.signature.text asset
        network = .error error) :
      Ends pattern imports who body requestId nowMs world
        (world.claimed who body.auth.nonce.text (hashOf imports body)) (.error error)
  | invalid {network : NetworkConfig} {asset : AssetConfig} {sigResult : SignatureResult} {db : Db}
      {result : VerifyRejected} (hpasses : Passes imports body nowMs network asset)
      (hunused : Unused pattern imports body world)
      (hverify : imports.verifyTransferAuthorization body.auth body.payload.signature.text asset
        network = .ok sigResult) (hinvalid : sigResult.valid = false)
      (hpersist : PersistEnds pattern imports.host world.db network body requestId
        (invalidVerdict sigResult) db true)
      (hcode : result.code = "invalid_signature") :
      Ends pattern imports who body requestId nowMs world { world with db := db }
        (.ok (.rejected result))
  | invalidUnstored {network : NetworkConfig} {asset : AssetConfig} {sigResult : SignatureResult}
      {db : Db} {error : Err} (hpasses : Passes imports body nowMs network asset)
      (hunused : Unused pattern imports body world)
      (hverify : imports.verifyTransferAuthorization body.auth body.payload.signature.text asset
        network = .ok sigResult) (hinvalid : sigResult.valid = false)
      (hpersist : PersistEnds pattern imports.host world.db network body requestId
        (invalidVerdict sigResult) db false) :
      Ends pattern imports who body requestId nowMs world { world with db := db } (.error error)
  | validUnstored {network : NetworkConfig} {asset : AssetConfig} {sigResult : SignatureResult}
      {db : Db} {result : VerifyRejected} (hpasses : Passes imports body nowMs network asset)
      (hunused : Unused pattern imports body world)
      (hverify : imports.verifyTransferAuthorization body.auth body.payload.signature.text asset
        network = .ok sigResult) (hvalid : sigResult.valid = true)
      (hpersist : PersistEnds pattern imports.host world.db network body requestId acceptedVerdict
        db false)
      (hcode : result.code = "internal_error") :
      Ends pattern imports who body requestId nowMs world { world with db := db }
        (.ok (.rejected result))
  | accepted {network : NetworkConfig} {asset : AssetConfig} {sigResult : SignatureResult} {db : Db}
      {result : VerifyAccepted} (hpasses : Passes imports body nowMs network asset)
      (hunused : Unused pattern imports body world)
      (hverify : imports.verifyTransferAuthorization body.auth body.payload.signature.text asset
        network = .ok sigResult) (hvalid : sigResult.valid = true)
      (hpersist : PersistEnds pattern imports.host world.db network body requestId acceptedVerdict
        db true) :
      Ends pattern imports who body requestId nowMs world
        { world.claimed who body.auth.nonce.text (hashOf imports body) with db := db }
        (.ok (.accepted result))

section Endings

variable {imports : Imports} {body : VerifyRequest} {requestId : String} {nowMs : Nat}
  {network : NetworkConfig} {asset : AssetConfig}

theorem alone_verifyAccepted (hpasses : Passes imports body nowMs network asset)
    (hunused : Unused pattern imports body world) {sigResult : SignatureResult}
    (hverify : imports.verifyTransferAuthorization body.auth body.payload.signature.text asset
      network = .ok sigResult) (hvalid : sigResult.valid = true) :
    SatAlone pattern faults who (verifyAccepted body requestId network (hashOf imports body))
      (world.claimed who body.auth.nonce.text (hashOf imports body))
      (Ends pattern imports who body requestId nowMs world) := by
  rw [SatAlone, verifyAccepted, Program.sat_bind', Program.sat_tryCatch, Program.sat_bind']
  apply alone_persistVerification
  · intro db error hpersist
    change Program.Sat _ _ _ _
    rw [Program.sat_bind']
    apply alone_releaseNonceRedis hunused.unclaimed
    exact alone_reject fun result hcode =>
      .validUnstored hpasses hunused hverify hvalid hpersist hcode
  · intro db hpersist
    change Program.Sat _ (acceptedResponse body requestId requestId pattern.verificationId) _ _
    have hdate : (JsDate.ofSeconds body.auth.validBefore).isSome = true := by
      cases hpersist with
      | added hadded _ =>
          have hcan := hadded.1.2.2.1
          exact ((Bool.and_eq_true _ _).mp hcan).1
    obtain ⟨timeValue, htime⟩ := Option.isSome_iff_exists.mp hdate
    rw [acceptedResponse, htime, JsDate.toISOString, Option.map_some]
    dsimp only
    rw [Program.sat_bind']
    exact alone_now fun ms => .accepted hpasses hunused hverify hvalid hpersist

theorem alone_verifySignature (hpasses : Passes imports body nowMs network asset)
    (hunused : Unused pattern imports body world) :
    SatAlone pattern faults who
      (verifySignature imports network asset body requestId (hashOf imports body))
      (world.claimed who body.auth.nonce.text (hashOf imports body))
      (Ends pattern imports who body requestId nowMs world) := by
  rw [SatAlone, verifySignature, Program.sat_bind', Program.sat_ofExcept]
  cases hverify : imports.verifyTransferAuthorization body.auth body.payload.signature.text asset
    network with
  | error error => exact .verifierThrew hpasses hunused hverify
  | ok sigResult =>
      rw [Program.thenSat_ok]
      split
      · rename_i hvalid
        exact alone_verifyAccepted hpasses hunused hverify hvalid
      · rename_i hinvalid
        have hinvalid := Bool.eq_false_iff.mpr hinvalid
        rw [Program.sat_bind']
        apply alone_releaseNonceRedis hunused.unclaimed
        rw [Program.thenSat_ok, Program.sat_bind']
        apply alone_persistVerification
        · exact fun db error hpersist =>
            .invalidUnstored hpasses hunused hverify hinvalid hpersist
        · intro db hpersist
          exact alone_reject fun result hcode =>
            .invalid hpasses hunused hverify hinvalid hpersist hcode

theorem alone_verifyClaimed (hpasses : Passes imports body nowMs network asset) :
    SatAlone pattern faults who (verifyClaimed imports network asset body requestId) world
      (Ends pattern imports who body requestId nowMs world) := by
  rw [SatAlone, verifyClaimed, Program.sat_bind']
  apply alone_claimNonceRedis
  · intro hunclaimed
    rw [Program.thenSat_ok, Program.sat_bind']
    apply alone_checkReplayPostgres
    · exact fun hfails error => .lookupFailed hpasses hunclaimed hfails
    · exact fun hanswered hfresh =>
        alone_verifySignature hpasses ⟨hunclaimed, hanswered, hfresh⟩
    · intro hanswered hrows reason
      rw [Program.thenSat_ok, Program.sat_bind']
      apply alone_releaseNonceRedis hunclaimed
      exact alone_reject fun result hcode => .replayed hpasses hunclaimed hanswered hrows hcode
  · exact fun hhalf => alone_reject fun result hcode => .halfClaimed hpasses hhalf hcode
  · exact fun hpresent reason => alone_reject fun result hcode => .present hpasses hpresent hcode

/-- A check that refuses names one of two codes. -/
theorem code_of_checkAuthorization {host : Host} {nowSec : Nat} {code message : String}
    (h : checkAuthorization host body nowSec = .ok (some (code, message))) :
    code ≠ "invalid_signature" := by
  simp only [checkAuthorization] at h
  split at h
  · split at h
    · cases h
    · cases h
      decide
  · split at h
    · cases h
      decide
    · split at h
      · cases h
        decide
      · split at h
        · cases h
          decide
        · cases h

/-- What has expired at a time value has a date. -/
theorem checkAuthorization_ne_error {host : Host} (hclock : (nowMs : Int) ≤ maxTimeValue)
    (error : Err) : checkAuthorization host body (nowMs / 1000) ≠ .error error := by
  simp only [checkAuthorization]
  split
  · rename_i hexpired
    have hdate : (body.auth.validBefore : Int) * 1000 ≤ maxTimeValue := by omega
    rw [JsDate.ofSeconds, if_pos hdate]
    exact nofun
  · split
    · exact nofun
    · split
      · exact nofun
      · split <;> exact nofun

theorem alone_dateNow {α : Type} {f : Nat → ServiceProgram α} {decisions : Decisions (machine ι faults)}
    {result : Except Err α} {last : World ι}
    (h : Alone (machine ι faults) pattern.fair who (dateNow >>= f) world decisions result last) :
    ∃ (ms : Nat) (decide : Op → Outcome) (rest : Decisions (machine ι faults)),
      (ms : Int) ≤ maxTimeValue ∧ decisions = decide :: rest ∧ decide .now = .time ms ∧
      Alone (machine ι faults) pattern.fair who (f ms) world rest result last := by
  obtain ⟨decide, rest, answer, middle, rfl, ⟨ms, hclock, htime⟩, hexec, hrest⟩ := h.of_perform
  rw [htime] at hexec
  obtain ⟨rfl, rfl⟩ := Prod.mk.inj (Option.some.inj hexec)
  exact ⟨ms, decide, rest, hclock, rfl, htime, hrest⟩

/-- The time a call reads first. -/
def ReadsFirst (decisions : Decisions (machine ι faults)) (nowMs : Nat) : Prop :=
  ∃ decide rest, decisions = decide :: rest ∧ decide .now = .time nowMs

theorem ReadsFirst.unique {decisions : Decisions (machine ι faults)} {nowMs nowMs' : Nat}
    (h : ReadsFirst decisions nowMs) (h' : ReadsFirst decisions nowMs') : nowMs' = nowMs := by
  obtain ⟨decide, rest, rfl, htime⟩ := h
  obtain ⟨decide', rest', heq, htime'⟩ := h'
  obtain ⟨rfl, -⟩ := List.cons.inj heq
  exact Outcome.time.inj (htime'.symm.trans htime)

theorem alone_refusal {code message : String} {httpStatus : Nat}
    {decisions : Decisions (machine ι faults)} {result : Except Err VerifyResponse} {last : World ι}
    (h : Alone (machine ι faults) pattern.fair who (reject requestId code message httpStatus) world
      decisions result last) :
    ∃ (ms : Nat) (rejected : VerifyRejected), ReadsFirst decisions ms ∧ rejected.code = code ∧
      result = .ok (.rejected rejected) ∧ last = world := by
  obtain ⟨ms, decide, rest, -, rfl, htime, hrest⟩ := alone_dateNow h
  obtain ⟨rfl, rfl⟩ := hrest.of_ret
  exact ⟨ms, _, ⟨decide, rest, rfl, htime⟩, rfl, rfl, rfl⟩

/-- **The exits of a call.** Every call that has been parsed ends in one of them, at the time it has
read first. -/
theorem ends_of_alone {decisions : Decisions (machine ι faults)}
    {result : Except Err VerifyResponse} {last : World ι}
    (h : Alone (machine ι faults) pattern.fair who (verifyParsed imports body requestId) world decisions
      result last) :
    ∃ nowMs, ReadsFirst decisions nowMs ∧
      Ends pattern imports who body requestId nowMs world last result := by
  unfold verifyParsed at h
  split at h
  · rename_i hnetwork
    obtain ⟨ms, rejected, hfirst, hcode, rfl, rfl⟩ := alone_refusal h
    refine ⟨ms, hfirst, .unchecked (fun network asset hpasses => ?_) (by rw [hcode]; decide)⟩
    rw [hpasses.supported] at hnetwork
    cases hnetwork
  · rename_i network hnetwork
    split at h
    · rename_i hasset
      obtain ⟨ms, rejected, hfirst, hcode, rfl, rfl⟩ := alone_refusal h
      refine ⟨ms, hfirst, .unchecked (fun network' asset hpasses => ?_) (by rw [hcode]; decide)⟩
      obtain rfl := Option.some.inj (hnetwork.symm.trans hpasses.supported)
      rw [hpasses.listed] at hasset
      cases hasset
    · rename_i asset hasset
      obtain ⟨ms, decide, rest, hclock, rfl, htime, hrest⟩ := alone_dateNow h
      refine ⟨ms, ⟨decide, rest, rfl, htime⟩, ?_⟩
      cases hchecked : checkAuthorization imports.host body (ms / 1000) with
      | error error => exact absurd hchecked (checkAuthorization_ne_error hclock error)
      | ok refusal =>
          rw [hchecked] at hrest
          cases refusal with
          | none => exact hrest.of_sat (alone_verifyClaimed ⟨hnetwork, hasset, hchecked⟩)
          | some refusal =>
              obtain ⟨code, message⟩ := refusal
              obtain ⟨_, rejected, -, hcode, rfl, rfl⟩ := alone_refusal hrest
              refine .unchecked (fun network' asset' hpasses => ?_)
                (by rw [hcode]; exact code_of_checkAuthorization hchecked)
              have hpassed := hpasses.checked
              rw [hchecked] at hpassed
              cases hpassed

end Endings

end Rules

end Service

end FacilitatorX402
