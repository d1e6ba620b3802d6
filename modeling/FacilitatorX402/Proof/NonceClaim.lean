import FacilitatorX402.Proof.ServiceStages

/-!
# Claims of a nonce

Calls of `claimNonceRedis` alone. The signature key is never deleted, so one call takes it. That call
has claimed the payment, if it has found the nonce key absent as well; but another call can have taken
the nonce key in between, and then gives it back, and no call has claimed the payment.
-/

namespace FacilitatorX402

open Interact

namespace Service

/-- What a call has learned of its keys, and whether it has given the nonce key back. -/
structure Claiming where
  nonce : Option Bool
  signature : Option Bool
  released : Bool
  failed : Bool

namespace Claiming

def begun : Claiming := ⟨none, none, false, false⟩

def next (claiming : Claiming) : (op : Op) → Except Err (interface.Ans op) → Claiming
  | .redis (.setNx (.nonce _)), .ok fresh => { claiming with nonce := some fresh }
  | .redis (.setNx (.sig _)), .ok fresh => { claiming with signature := some fresh }
  | .redis (.del _), .ok _ => { claiming with released := true }
  | _, .error _ => { claiming with failed := true }
  | _, .ok _ => claiming

end Claiming

/-- Each key is set once, and the nonce key is deleted by a call that has set it and found the
signature key present. -/
def PaymentClaim.Allowed (claim : PaymentClaim) (claiming : Claiming) (op : Op) : Prop :=
  op = .race ∨
  (op = .redis (.setNx (.nonce claim.nonce)) ∧ claiming.nonce = none) ∨
  (op = .redis (.setNx (.sig claim.signatureHash)) ∧ claiming.signature = none) ∨
  (op = .redis (.del (.nonce claim.nonce)) ∧ claiming = ⟨some true, some false, false, false⟩)

def claimRules (claim : PaymentClaim) : Protocol interface Err Claiming where
  allowed := claim.Allowed
  trans claiming op answer claiming' := claiming' = claiming.next op answer

/-- A call that has returned has learned of both keys, and a nonce key taken for nothing has been
given back. -/
def claimPost (claiming : Claiming) (outcome : Except Err ReplayCheckResult) : Prop :=
  ∀ reason, outcome = .ok reason → claiming.failed = false ∧
    ∃ nonceClaimed sigClaimed, claiming.nonce = some nonceClaimed ∧
      claiming.signature = some sigClaimed ∧
      (reason = none ↔ nonceClaimed = true ∧ sigClaimed = true) ∧
      (nonceClaimed = true → sigClaimed = false → claiming.released = true)

theorem sat_claimBoth (claim : PaymentClaim) :
    (promiseAll (redisSetNx (.nonce claim.nonce)) (redisSetNx (.sig claim.signatureHash))).Sat
      (claimRules claim) .begun fun claiming outcome =>
        ∀ nonceClaimed sigClaimed, outcome = .ok (nonceClaimed, sigClaimed) →
          claiming = ⟨some nonceClaimed, some sigClaimed, false, false⟩ := by
  rw [sat_promiseAll]
  refine ⟨.inl rfl, ?_⟩
  rintro (error | _ | _) claiming rfl
  · exact nofun
  · dsimp only
    rw [sat_redisSetNx]
    refine ⟨.inr (.inr (.inl ⟨rfl, rfl⟩)), ?_⟩
    rintro (error | sigClaimed) claiming rfl <;>
    · rw [sat_redisSetNx]
      refine ⟨.inr (.inl ⟨rfl, rfl⟩), ?_⟩
      rintro (error | nonceClaimed) claiming rfl <;> intro x y h <;> cases h <;> rfl
  · dsimp only
    rw [sat_redisSetNx]
    refine ⟨.inr (.inl ⟨rfl, rfl⟩), ?_⟩
    rintro (error | nonceClaimed) claiming rfl <;>
    · rw [sat_redisSetNx]
      refine ⟨.inr (.inr (.inl ⟨rfl, rfl⟩)), ?_⟩
      rintro (error | sigClaimed) claiming rfl <;> intro x y h <;> cases h <;> rfl

theorem sat_claimNonceRedis (claim : PaymentClaim) :
    (claimNonceRedis claim.nonce claim.signatureHash).Sat (claimRules claim) .begun claimPost := by
  rw [claimNonceRedis, Program.sat_bind']
  apply (sat_claimBoth claim).mono
  rintro claiming (error | ⟨nonceClaimed, sigClaimed⟩) hclaiming
  · exact nofun
  obtain rfl := hclaiming nonceClaimed sigClaimed rfl
  cases nonceClaimed with
  | false =>
      rintro reason ⟨⟩
      exact ⟨rfl, false, sigClaimed, rfl, rfl, by simp, nofun⟩
  | true =>
      cases sigClaimed with
      | true =>
          rintro reason ⟨⟩
          exact ⟨rfl, true, true, rfl, rfl, by simp, nofun⟩
      | false =>
          change Program.Sat _ (redisDel (.nonce claim.nonce) >>= fun _ => _) _ _
          rw [Program.sat_bind', sat_redisDel]
          refine ⟨.inr (.inr (.inr ⟨rfl, rfl⟩)), ?_⟩
          rintro (error | released) claiming rfl
          · exact nofun
          · rintro reason ⟨⟩
            exact ⟨rfl, true, false, rfl, rfl, by simp, fun _ _ => rfl⟩

/-! ### Which keys a call can have left -/

section Runs

variable {ι : Type} {faults : Faults}

/-- The answer to the claim of the nonce. -/
def nonceAnswered (who : ι) (claim : PaymentClaim) (fresh : Bool) : Event interface Err ι :=
  ⟨who, .redis (.setNx (.nonce claim.nonce)), .ok fresh⟩

/-- The answer to the claim of the signature. -/
def signatureAnswered (who : ι) (claim : PaymentClaim) (fresh : Bool) : Event interface Err ι :=
  ⟨who, .redis (.setNx (.sig claim.signatureHash)), .ok fresh⟩

/-- No call that finds the nonce key present finds the signature key absent. -/
def TakesBoth (claim : ι → PaymentClaim) (cfg : Config (machine ι faults) ReplayCheckResult)
    (event : Event interface Err ι) : Prop :=
  let claim := claim event.who
  (event.op = .redis (.setNx (.sig claim.signatureHash)) →
    nonceAnswered event.who claim false ∈ cfg.history →
    cfg.world.redis (.sig claim.signatureHash) ≠ none) ∧
  (event.op = .redis (.setNx (.nonce claim.nonce)) →
    signatureAnswered event.who claim true ∈ cfg.history →
    cfg.world.redis (.nonce claim.nonce) = none)

/-- What the store and the history have to do with what a call has learned. -/
structure Claiming.Sound (who : ι) (claim : PaymentClaim) (store : KeyStore.Store Key ι)
    (history : List (Event interface Err ι)) (claiming : Claiming) : Prop where
  taken : claiming.signature = some true → store (.sig claim.signatureHash) = some (.call who)
  present : claiming.signature = some false → store (.sig claim.signatureHash) ≠ none
  mine : ∀ key, store key = some (.call who) → claiming.failed = true ∨
    (key = .nonce claim.nonce ∧ claiming.nonce = some true ∧ claiming.released = false) ∨
    (key = .sig claim.signatureHash ∧ claiming.signature = some true)
  nonceRefused : claiming.nonce = some false → nonceAnswered who claim false ∈ history
  signatureTaken : claiming.signature = some true → signatureAnswered who claim true ∈ history
  together : claiming.nonce = some false → claiming.signature ≠ some true
  unreleased : claiming.nonce = none → claiming.released = false

/-- How the store can change: keys of signatures stay, and no key becomes that of another. -/
structure KeysKept (who : ι) (store store' : KeyStore.Store Key ι) : Prop where
  signature : ∀ hash, store (.sig hash) ≠ none → store' (.sig hash) = store (.sig hash)
  others : ∀ key holder, store' key = some holder → holder = .call who ∨ store key = some holder

theorem KeysKept.refl (who : ι) (store : KeyStore.Store Key ι) : KeysKept who store store where
  signature _ _ := rfl
  others _ _ h := .inr h

theorem KeysKept.put {who : ι} {store : KeyStore.Store Key ι} {key : Key}
    (habsent : store key = none) : KeysKept who store (store.put key who) where
  signature hash hpresent := by
    apply KeyStore.Store.put_of_ne
    rintro rfl
    exact hpresent habsent
  others other holder h := by
    by_cases heq : other = key
    · subst heq
      rw [KeyStore.Store.put_self] at h
      exact .inl (Option.some.inj h).symm
    · rw [KeyStore.Store.put_of_ne _ heq] at h
      exact .inr h

theorem KeysKept.erase (who : ι) (store : KeyStore.Store Key ι) (nonce : String) :
    KeysKept who store (store.erase (.nonce nonce)) where
  signature hash _ := KeyStore.Store.erase_of_ne _ (by simp)
  others other holder h := by
    by_cases heq : other = .nonce nonce
    · subst heq
      rw [KeyStore.Store.erase_self] at h
      cases h
    · rw [KeyStore.Store.erase_of_ne _ heq] at h
      exact .inr h

section Sound

variable {who : ι} {claim : PaymentClaim} {store store' : KeyStore.Store Key ι}
  {history : List (Event interface Err ι)} {claiming : Claiming}

/-- A step that teaches the call nothing about its keys. -/
theorem Claiming.Sound.keep {actor : ι} (h : claiming.Sound who claim store history)
    (hkept : KeysKept actor store store') {failed : Bool}
    (hfailed : claiming.failed = true → failed = true)
    (hmine : ∀ key, store' key = some (.call who) → failed = true ∨ store key = some (.call who))
    (event : Event interface Err ι) :
    ({ claiming with failed := failed } : Claiming).Sound who claim store' (event :: history) where
  taken htaken := by
    rw [hkept.signature _ (by rw [h.taken htaken]; exact Option.some_ne_none _)]
    exact h.taken htaken
  present hpresent := by
    rw [hkept.signature _ (h.present hpresent)]
    exact h.present hpresent
  mine key hkey := by
    rcases hmine key hkey with hfail | hkey
    · exact .inl hfail
    · exact (h.mine key hkey).imp_left hfailed
  nonceRefused hrefused := List.mem_cons_of_mem _ (h.nonceRefused hrefused)
  signatureTaken htaken := List.mem_cons_of_mem _ (h.signatureTaken htaken)
  together := h.together
  unreleased := h.unreleased

theorem Claiming.Sound.frame {actor : ι} (h : claiming.Sound who claim store history)
    (hne : who ≠ actor) (hkept : KeysKept actor store store') (event : Event interface Err ι) :
    claiming.Sound who claim store' (event :: history) := by
  apply h.keep hkept id
  intro key hkey
  rcases hkept.others key _ hkey with heq | hkey
  · exact absurd (KeyStore.Holder.call.inj heq) hne
  · exact .inr hkey

theorem Claiming.Sound.fail (h : claiming.Sound who claim store history)
    (hkept : KeysKept who store store') (event : Event interface Err ι) :
    ({ claiming with failed := true } : Claiming).Sound who claim store' (event :: history) :=
  h.keep hkept (fun _ => rfl) (fun _ _ => .inl rfl) event

theorem Claiming.Sound.takeNonce (h : claiming.Sound who claim store history)
    (hbegun : claiming.nonce = none) :
    ({ claiming with nonce := some true } : Claiming).Sound who claim
      (store.put (.nonce claim.nonce) who) (nonceAnswered who claim true :: history) where
  taken htaken := by
    rw [KeyStore.Store.put_of_ne _ (by simp)]
    exact h.taken htaken
  present hpresent := by
    rw [KeyStore.Store.put_of_ne _ (by simp)]
    exact h.present hpresent
  mine key hkey := by
    by_cases heq : key = .nonce claim.nonce
    · exact .inr (.inl ⟨heq, rfl, h.unreleased hbegun⟩)
    · rw [KeyStore.Store.put_of_ne _ heq] at hkey
      rcases h.mine key hkey with hfailed | ⟨rfl, -⟩ | hsignature
      · exact .inl hfailed
      · exact absurd rfl heq
      · exact .inr (.inr hsignature)
  nonceRefused := nofun
  signatureTaken htaken := List.mem_cons_of_mem _ (h.signatureTaken htaken)
  together := nofun
  unreleased := nofun

theorem Claiming.Sound.refuseNonce (h : claiming.Sound who claim store history)
    (hbegun : claiming.nonce = none) (htogether : claiming.signature ≠ some true) :
    ({ claiming with nonce := some false } : Claiming).Sound who claim store
      (nonceAnswered who claim false :: history) where
  taken := h.taken
  present := h.present
  mine key hkey := by
    rcases h.mine key hkey with hfailed | ⟨-, hnonce, -⟩ | hsignature
    · exact .inl hfailed
    · rw [hbegun] at hnonce
      cases hnonce
    · exact .inr (.inr hsignature)
  nonceRefused _ := List.mem_cons_self
  signatureTaken htaken := List.mem_cons_of_mem _ (h.signatureTaken htaken)
  together _ := htogether
  unreleased := nofun

theorem Claiming.Sound.takeSignature (h : claiming.Sound who claim store history)
    (htogether : claiming.nonce ≠ some false) :
    ({ claiming with signature := some true } : Claiming).Sound who claim
      (store.put (.sig claim.signatureHash) who) (signatureAnswered who claim true :: history) where
  taken _ := KeyStore.Store.put_self _ _ _
  present := nofun
  mine key hkey := by
    by_cases heq : key = .sig claim.signatureHash
    · exact .inr (.inr ⟨heq, rfl⟩)
    · rw [KeyStore.Store.put_of_ne _ heq] at hkey
      rcases h.mine key hkey with hfailed | hnonce | ⟨rfl, -⟩
      · exact .inl hfailed
      · exact .inr (.inl hnonce)
      · exact absurd rfl heq
  nonceRefused hrefused := absurd hrefused htogether
  signatureTaken _ := List.mem_cons_self
  together hrefused := absurd hrefused htogether
  unreleased := h.unreleased

theorem Claiming.Sound.refuseSignature (h : claiming.Sound who claim store history)
    (hpresent : store (.sig claim.signatureHash) ≠ none) (hbegun : claiming.signature = none) :
    ({ claiming with signature := some false } : Claiming).Sound who claim store
      (signatureAnswered who claim false :: history) where
  taken := nofun
  present _ := hpresent
  mine key hkey := by
    rcases h.mine key hkey with hfailed | hnonce | ⟨-, hsignature⟩
    · exact .inl hfailed
    · exact .inr (.inl hnonce)
    · rw [hbegun] at hsignature
      cases hsignature
  nonceRefused hrefused := List.mem_cons_of_mem _ (h.nonceRefused hrefused)
  signatureTaken := nofun
  together _ := nofun
  unreleased := h.unreleased

theorem Claiming.Sound.release
    (h : Claiming.Sound who claim store history ⟨some true, some false, false, false⟩)
    (event : Event interface Err ι) :
    Claiming.Sound who claim (store.erase (.nonce claim.nonce)) (event :: history)
      ⟨some true, some false, true, false⟩ where
  taken := nofun
  present hpresent := by
    rw [KeyStore.Store.erase_of_ne _ (by simp)]
    exact h.present hpresent
  mine key hkey := by
    by_cases heq : key = .nonce claim.nonce
    · subst heq
      rw [KeyStore.Store.erase_self] at hkey
      cases hkey
    · rw [KeyStore.Store.erase_of_ne _ heq] at hkey
      rcases h.mine key hkey with hfailed | ⟨rfl, -⟩ | ⟨-, hsignature⟩
      · cases hfailed
      · exact absurd rfl heq
      · cases hsignature
  nonceRefused := nofun
  signatureTaken := nofun
  together := nofun
  unreleased := nofun

end Sound

/-- Calls of `claimNonceRedis` that have done nothing, in any store. -/
structure ClaimStart (claim : ι → PaymentClaim)
    (cfg : Config (machine ι faults) ReplayCheckResult) : Prop where
  calls : ∀ who, cfg.calls who = claimNonceRedis (claim who).nonce (claim who).signatureHash
  history : cfg.history = []
  keys : ∀ key who, cfg.world.redis key ≠ some (.call who)

/-- The keys that no call has put there are those of the store at the start. -/
structure ClaimInv (claim : ι → PaymentClaim) (before : KeyStore.Store Key ι)
    (cfg : Config (machine ι faults) ReplayCheckResult) (claiming : ι → Claiming) : Prop where
  sound : ∀ who, (claiming who).Sound who (claim who) cfg.world.redis cfg.history
  earlier : ∀ key, cfg.world.redis key = some .earlier → before key = some .earlier

variable [DecidableEq ι] {claim : ι → PaymentClaim} {before : KeyStore.Store Key ι}
  {start cfg : Config (machine ι faults) ReplayCheckResult} {claiming : ι → Claiming}

section Step

variable {who : ι} {op : Op} {next : Except Err (interface.Ans op) → ServiceProgram ReplayCheckResult}
  {answer : Except Err (interface.Ans op)} {world : World ι}

theorem ClaimInv.perform (h : ClaimInv claim before cfg claiming)
    (hkept : KeysKept who cfg.world.redis world.redis) {claiming' : Claiming}
    (hwho : claiming'.Sound who (claim who) world.redis (⟨who, op, answer⟩ :: cfg.history)) :
    ClaimInv claim before (cfg.perform who op next answer world)
      (Function.update claiming who claiming') := by
  constructor
  · intro other
    by_cases heq : other = who
    · subst heq
      rw [Function.update_self]
      exact hwho
    · rw [Function.update_of_ne heq]
      exact (h.sound other).frame heq hkept _
  · intro key hkey
    rcases hkept.others key .earlier hkey with hmine | hbefore
    · cases hmine
    · exact h.earlier key hbefore

theorem ClaimInv.step (h : ClaimInv claim before cfg claiming)
    (hallowed : (claim who).Allowed (claiming who) op) {outcome : Outcome}
    (hexec : (machine ι faults).exec who cfg.world op outcome = some (answer, world))
    (htakes : TakesBoth claim cfg ⟨who, op, answer⟩) :
    ClaimInv claim before (cfg.perform who op next answer world)
      (Function.update claiming who ((claiming who).next op answer)) := by
  have hsound := h.sound who
  rcases hallowed with rfl | ⟨rfl, hbegun⟩ | ⟨rfl, hbegun⟩ | ⟨rfl, hheld⟩
  · have hredis : world.redis = cfg.world.redis := exec_redis_eq (by simp) hexec
    apply h.perform
    · rw [hredis]
      exact .refl who _
    · rw [hredis]
      cases answer with
      | ok inOrder => exact hsound.keep (.refl who _) id (fun _ => .inr) _
      | error error => exact hsound.fail (.refl who _) _
  · obtain ⟨⟨fate, hfate⟩, -⟩ := exec_redis hexec
    rcases KeyStore.exec_setNx_cases hfate with ⟨rfl, habsent, hstore⟩ | ⟨rfl, hpresent, hstore⟩ |
      ⟨error, rfl, hstore⟩
    · apply h.perform
      · rw [hstore]
        exact .put habsent
      · rw [hstore]
        exact hsound.takeNonce hbegun
    · apply h.perform
      · rw [hstore]
        exact .refl who _
      · rw [hstore]
        exact hsound.refuseNonce hbegun fun htaken =>
          hpresent (htakes.2 rfl (hsound.signatureTaken htaken))
    · have hkept : KeysKept who cfg.world.redis world.redis := by
        rcases hstore with hstore | ⟨habsent, hstore⟩ <;> rw [hstore]
        · exact .refl who _
        · exact .put habsent
      exact h.perform hkept (hsound.fail hkept _)
  · obtain ⟨⟨fate, hfate⟩, -⟩ := exec_redis hexec
    rcases KeyStore.exec_setNx_cases hfate with ⟨rfl, habsent, hstore⟩ | ⟨rfl, hpresent, hstore⟩ |
      ⟨error, rfl, hstore⟩
    · apply h.perform
      · rw [hstore]
        exact .put habsent
      · rw [hstore]
        exact hsound.takeSignature fun hrefused =>
          htakes.1 rfl (hsound.nonceRefused hrefused) habsent
    · apply h.perform
      · rw [hstore]
        exact .refl who _
      · rw [hstore]
        exact hsound.refuseSignature hpresent hbegun
    · have hkept : KeysKept who cfg.world.redis world.redis := by
        rcases hstore with hstore | ⟨habsent, hstore⟩ <;> rw [hstore]
        · exact .refl who _
        · exact .put habsent
      exact h.perform hkept (hsound.fail hkept _)
  · obtain ⟨⟨fate, hfate⟩, -⟩ := exec_redis hexec
    rw [hheld] at hsound ⊢
    cases answer with
    | ok deleted =>
        rcases KeyStore.exec_del_cases hfate with hstore | ⟨⟨error, herror⟩, -⟩
        · apply h.perform
          · rw [hstore]
            exact .erase who _ _
          · rw [hstore]
            exact hsound.release _
        · cases herror
    | error error =>
        have hkept : KeysKept who cfg.world.redis world.redis := by
          rcases KeyStore.exec_del_cases hfate with hstore | ⟨-, hstore⟩ <;> rw [hstore]
          · exact .erase who _ _
          · exact .refl who _
        exact h.perform hkept (hsound.fail hkept _)

end Step

theorem preserved_claims (hkeys : faults.keysVanish = false) (before : KeyStore.Store Key ι) :
    Config.Preserved (M := machine ι faults) (fun who => claimRules (claim who))
      (fun _ => claimPost) (ClaimInv claim before) (TakesBoth claim) where
  call _ _ _ _ _ _ _ _ hfollows _ hallowed hexec htakes :=
    ⟨_, rfl, hfollows.inv.step hallowed hexec htakes⟩
  env cfg claiming event world hfollows henv := by
    have hredis := (machine_env_rows henv).2.2 hkeys
    exact ⟨fun who => by
      rw [hredis]
      exact hfollows.inv.sound who, fun key hkey => hfollows.inv.earlier key (by rwa [hredis] at hkey)⟩

omit [DecidableEq ι] in
theorem ClaimStart.follows (hstart : ClaimStart claim start) :
    Config.Follows (fun who => claimRules (claim who)) (fun _ => claimPost)
      (ClaimInv claim start.world.redis) start fun _ => .begun where
  sat who := by
    rw [hstart.calls]
    exact sat_claimNonceRedis (claim who)
  inv :=
    { sound := fun who =>
        { taken := nofun
          present := nofun
          mine := fun key hkey => absurd hkey (hstart.keys key who)
          nonceRefused := nofun
          signatureTaken := nofun
          together := nofun
          unreleased := fun _ => rfl }
      earlier := fun _ => id }

/-- The call has returned, with the reason of a duplicate or with none. -/
def Returned (cfg : Config (machine ι faults) ReplayCheckResult) (who : ι)
    (reason : ReplayCheckResult) : Prop := (cfg.calls who).result? = some (.ok reason)

section Returned

variable {who : ι}
  (hfollows : Config.Follows (fun who => claimRules (claim who)) (fun _ => claimPost)
    (ClaimInv claim before) cfg claiming)
include hfollows

omit [DecidableEq ι] in
/-- A call that has returned is no duplicate if and only if it has taken the signature key. -/
theorem Returned.eq_none_iff {reason : ReplayCheckResult} (h : Returned cfg who reason) :
    reason = none ↔ (claiming who).signature = some true := by
  obtain ⟨-, nonceClaimed, sigClaimed, hnonce, hsignature, hreason, -⟩ :=
    hfollows.of_result h reason rfl
  have htogether := (hfollows.inv.sound who).together
  rw [hnonce, hsignature] at htogether
  rw [hreason, hsignature]
  cases nonceClaimed <;> cases sigClaimed <;> simp_all

omit [DecidableEq ι] in
theorem Returned.no_key {reason : ReplayReason} (h : Returned cfg who (some reason)) (key : Key) :
    cfg.world.redis key ≠ some (.call who) := by
  obtain ⟨hfailed, nonceClaimed, sigClaimed, hnonce, hsignature, -, hreleased⟩ :=
    hfollows.of_result h (some reason) rfl
  have hlost : (claiming who).signature ≠ some true := fun htaken =>
    absurd ((h.eq_none_iff hfollows).mpr htaken) (Option.some_ne_none _)
  intro hkey
  rcases (hfollows.inv.sound who).mine key hkey with hfail | ⟨-, htaken, hkept⟩ | ⟨-, htaken⟩
  · rw [hfailed] at hfail
    cases hfail
  · obtain rfl : nonceClaimed = true := Option.some.inj (hnonce.symm.trans htaken)
    have hpresent : sigClaimed = false := by
      cases sigClaimed with
      | false => rfl
      | true => exact absurd hsignature hlost
    rw [hreleased rfl hpresent] at hkept
    cases hkept
  · exact hlost htaken

omit [DecidableEq ι] in
/-- When all calls for a payment have returned, the signature key is that of one of them. -/
theorem exists_taken [Nonempty ι] {payment : PaymentClaim} (hpayment : ∀ who, claim who = payment)
    (habsent : before (.sig payment.signatureHash) = none)
    (hreturned : ∀ who, ∃ reason, Returned cfg who reason) :
    ∃ who, (claiming who).signature = some true := by
  obtain ⟨who⟩ := ‹Nonempty ι›
  obtain ⟨reason, hreason⟩ := hreturned who
  obtain ⟨-, _, sigClaimed, -, hsignature, -, -⟩ := hfollows.of_result hreason reason rfl
  cases sigClaimed with
  | true => exact ⟨who, hsignature⟩
  | false =>
      have hpresent := (hfollows.inv.sound who).present hsignature
      rw [hpayment] at hpresent
      obtain ⟨holder, hholder⟩ := Option.ne_none_iff_exists'.mp hpresent
      cases holder with
      | earlier =>
          have hbefore := hfollows.inv.earlier _ hholder
          rw [habsent] at hbefore
          cases hbefore
      | call other =>
          obtain ⟨reason', hreason'⟩ := hreturned other
          obtain ⟨hfailed, -⟩ := hfollows.of_result hreason' reason' rfl
          rcases (hfollows.inv.sound other).mine _ hholder with hfail | ⟨hkey, -⟩ | ⟨-, htaken⟩
          · rw [hfailed] at hfail
            cases hfail
          · cases hkey
          · exact ⟨other, htaken⟩

end Returned

/-- **One claim of a payment.** If no call finds the nonce key present and the signature key absent,
then a duplicate has left no key of its own, and of the calls for one payment, on a store with neither
key, exactly one is not a duplicate when all have returned. -/
theorem claimed_once [Nonempty ι] (hkeys : faults.keysVanish = false)
    (hstart : ClaimStart claim start)
    (hreach : Config.Reachable (TakesBoth claim) start cfg) :
    (∀ payment : PaymentClaim, (∀ who, claim who = payment) →
      start.world.redis (.nonce payment.nonce) = none →
      start.world.redis (.sig payment.signatureHash) = none →
      (∀ who, ∃ reason, Returned cfg who reason) → ∃! who, Returned cfg who none) ∧
    ∀ who reason, Returned cfg who (some reason) → ∀ key, cfg.world.redis key ≠ some (.call who) := by
  obtain ⟨claiming, hfollows⟩ :=
    hreach.follows (preserved_claims hkeys start.world.redis) hstart.follows
  refine ⟨?_, fun who reason h => h.no_key hfollows⟩
  intro payment hpayment _ habsent hreturned
  obtain ⟨who, htaken⟩ := exists_taken hfollows hpayment habsent hreturned
  obtain ⟨reason, hreason⟩ := hreturned who
  obtain rfl := (hreason.eq_none_iff hfollows).mpr htaken
  refine ⟨who, hreason, fun other hother => ?_⟩
  have htaken' := (hother.eq_none_iff hfollows).mp rfl
  have howner := (hfollows.inv.sound who).taken htaken
  have howner' := (hfollows.inv.sound other).taken htaken'
  rw [hpayment] at howner howner'
  exact KeyStore.Holder.call.inj (Option.some.inj (howner'.symm.trans howner))

end Runs

/-! ### Two calls for one payment -/

section Schedules

/-- Two calls for one payment, with no key in the store. -/
def twoClaims (payment : PaymentClaim) :
    Config (machine (Fin 2) ⟨false, false⟩) ReplayCheckResult where
  world := seededWorld _
  calls _ := claimNonceRedis payment.nonce payment.signatureHash
  history := []

theorem twoClaims_start (payment : PaymentClaim) :
    ClaimStart (fun _ => payment) (twoClaims payment) where
  calls _ := rfl
  history := rfl
  keys _ _ := nofun

def samplePayment : PaymentClaim := ⟨"0x01", "ab"⟩

/-- Whether this is the answer to a call's `SET NX` of a key. -/
def isAnswer {ι : Type} [DecidableEq ι] (who : ι) (key : Key) (fresh : Bool) :
    Event interface Err ι → Bool
  | ⟨actor, .redis (.setNx key'), .ok (answer : Bool)⟩ => actor = who && key' = key && answer == fresh
  | _ => false

theorem isAnswer_self {ι : Type} [DecidableEq ι] (who : ι) (key : Key) (fresh : Bool) :
    isAnswer who key fresh ⟨who, .redis (.setNx key), .ok fresh⟩ = true := by
  cases fresh <;> simp [isAnswer]

/-- The calls meet the condition of `claimed_once`. -/
def takesBoth {ι : Type} [DecidableEq ι] {faults : Faults} (payment : PaymentClaim)
    (cfg : Config (machine ι faults) ReplayCheckResult) (event : Event interface Err ι) : Bool :=
  let nonce : Key := .nonce payment.nonce
  let signature : Key := .sig payment.signatureHash
  (event.op ≠ .redis (.setNx signature) || !cfg.history.any (isAnswer event.who nonce false)
      || (cfg.world.redis signature).isSome)
    && (event.op ≠ .redis (.setNx nonce) || !cfg.history.any (isAnswer event.who signature true)
      || (cfg.world.redis nonce).isNone)

theorem takesBoth_of_test {ι : Type} [DecidableEq ι] {faults : Faults} {payment : PaymentClaim}
    {cfg : Config (machine ι faults) ReplayCheckResult} {event : Event interface Err ι}
    (h : takesBoth payment cfg event = true) : TakesBoth (fun _ => payment) cfg event := by
  have hany : ∀ {key : Key} {fresh : Bool},
      (⟨event.who, .redis (.setNx key), .ok fresh⟩ : Event interface Err ι) ∈ cfg.history →
        cfg.history.any (isAnswer event.who key fresh) = true :=
    fun hmem => List.any_eq_true.mpr ⟨_, hmem, isAnswer_self _ _ _⟩
  simp only [takesBoth, Bool.and_eq_true, Bool.or_eq_true, decide_eq_true_eq,
    Bool.not_eq_true'] at h
  constructor
  · intro hop hrefused habsent
    rcases h.1 with (hne | hnone) | hpresent
    · exact hne hop
    · rw [hany hrefused] at hnone
      cases hnone
    · rw [habsent] at hpresent
      cases hpresent
  · intro hop htaken
    rcases h.2 with (hne | hnone) | habsent
    · exact absurd hop hne
    · rw [hany htaken] at hnone
      cases hnone
    · exact Option.isNone_iff_eq_none.mp habsent

/-- The reason a call has returned with. -/
def reason? (cfg : Config (machine (Fin 2) ⟨false, false⟩) ReplayCheckResult) (who : Fin 2) :
    Option ReplayCheckResult :=
  match (cfg.calls who).result? with
  | some (.ok reason) => some reason
  | _ => none

theorem returned_of_reason? {cfg : Config (machine (Fin 2) ⟨false, false⟩) ReplayCheckResult}
    {who : Fin 2} {reason : ReplayCheckResult} (h : reason? cfg who = some reason) :
    Returned cfg who reason := by
  unfold reason? at h
  split at h
  · rename_i hresult
    rw [← Option.some.inj h]
    exact hresult
  · cases h

/-- A call that claims the payment, and one that finds both keys present. -/
def oneAfterTheOther (first second : Fin 2) : List (Move (machine (Fin 2) ⟨false, false⟩)) :=
  [.call first (.pick 0), .call first (.fate .done), .call first (.fate .done),
    .call second (.pick 0), .call second (.fate .done), .call second (.fate .done)]

theorem claimed_once_after_another :
    ∃ cfg : Config (machine (Fin 2) ⟨false, false⟩) ReplayCheckResult,
      (∃! who, Returned cfg who none) ∧ ∀ key, cfg.world.redis key ≠ some (.call 1) := by
  obtain ⟨cfg, hrun, htest⟩ := Option.map_eq_some_iff.mp
    (show ((twoClaims samplePayment).runChecked (takesBoth samplePayment)
      (oneAfterTheOther 0 1)).map (fun cfg => decide (reason? cfg 0 = some none)
        && decide (reason? cfg 1 = some (some .nonceUsed))) = some true by decide)
  obtain ⟨hfirst, hsecond⟩ := (Bool.and_eq_true _ _).mp htest
  have hfirst := returned_of_reason? (of_decide_eq_true hfirst)
  have hsecond := returned_of_reason? (of_decide_eq_true hsecond)
  obtain ⟨honce, hnone⟩ := claimed_once rfl (twoClaims_start samplePayment)
    (Config.reachable_of_runChecked (fun _ _ => takesBoth_of_test) hrun)
  refine ⟨cfg, honce samplePayment (fun _ => rfl) rfl rfl ?_, hnone 1 .nonceUsed hsecond⟩
  intro who
  by_cases hwho : who = 0
  · exact ⟨none, hwho ▸ hfirst⟩
  · exact ⟨some .nonceUsed, (show who = 1 by omega) ▸ hsecond⟩

/-- Each call sends its SET of the nonce key first. One takes the nonce key, and the other the signature
key. -/
def eachTakesOne (first second : Fin 2) : List (Move (machine (Fin 2) ⟨false, false⟩)) :=
  [.call first (.pick 0), .call first (.fate .done), .call second (.pick 0),
    .call second (.fate .done), .call second (.fate .done), .call first (.fate .done),
    .call first (.fate .done)]

theorem claimed_by_none :
    ∃ cfg : Config (machine (Fin 2) ⟨false, false⟩) ReplayCheckResult,
      Config.Reachable Config.anyStep (twoClaims samplePayment) cfg ∧
      (∀ who, ∃ reason, Returned cfg who (some reason)) ∧ Returned cfg 1 (some .nonceUsed) ∧
      cfg.world.redis (.sig samplePayment.signatureHash) = some (.call 1) := by
  obtain ⟨cfg, hreach, htest⟩ := Config.exists_reachable_of_run
    (show ((twoClaims samplePayment).run (eachTakesOne 0 1)).map (fun cfg =>
      decide (reason? cfg 0 = some (some .signatureUsed))
        && decide (reason? cfg 1 = some (some .nonceUsed))
        && decide (cfg.world.redis (.sig samplePayment.signatureHash) = some (.call 1)))
      = some true by decide)
  simp only [Bool.and_eq_true, decide_eq_true_eq] at htest
  obtain ⟨⟨hfirst, hsecond⟩, hkey⟩ := htest
  refine ⟨cfg, hreach, fun who => ?_, returned_of_reason? hsecond, hkey⟩
  by_cases hwho : who = 0
  · exact ⟨.signatureUsed, hwho ▸ returned_of_reason? hfirst⟩
  · exact ⟨.nonceUsed, (show who = 1 by omega) ▸ returned_of_reason? hsecond⟩

end Schedules

end Service

end FacilitatorX402
