import FacilitatorX402.Proof.PaymentRules

/-!
# Accepted once

A call of `verifyPayment` claims both keys of its payment before anything else, deletes only keys it
holds, and ends accepted only while holding both. Keys are lower-cased, so two spellings of one
nonce, or of one signature, share a key: no two calls can both hold it.
-/

namespace FacilitatorX402

open Interact KeyStore

namespace Payment

/-- Deleting only what one holds, among the operations of the pipeline. -/
def keyRules : Protocol interface Err (Set Key) where
  allowed
    | held, .redis op => (claims Key Err).allowed held op
    | _, _ => True
  trans
    | held, .redis op, answer, held' => (claims Key Err).trans held op answer held'
    | held, _, _, held' => held' = held

/-- The keys of a payment. -/
def paymentKeys (req : VerifyRequest) : Set Key :=
  {nonceKey req.auth.nonce.text, signatureKey (computeSignatureHash req.payload.signature.text)}

theorem nonceKey_eq_iff (left right : Bytes32) :
    nonceKey left.text = nonceKey right.text ↔ left.bytes = right.bytes := by
  rw [← HexString.lower_eq_iff]
  simp [nonceKey, HexString.lower]

theorem signatureKey_eq_iff (left right : Signature) :
    signatureKey (computeSignatureHash left.text) = signatureKey (computeSignatureHash right.text)
      ↔ left.bytes = right.bytes := by
  have hkey (signature : Signature) :
      signatureKey (computeSignatureHash signature.text) = .sig signature.lower :=
    congrArg Key.sig signature.lowerCase_lower
  rw [← HexString.lower_eq_iff, hkey, hkey, Key.sig.injEq]

/-! ### A call holds its keys when it is accepted -/

section Sat

variable {req : VerifyRequest} {host : Host} {network : NetworkConfig} {asset : FoundAsset}
  {requestId : String}

/-- A step that, when it succeeds, leaves the call holding exactly its keys. -/
def holdsWhenOk {α : Type} (req : VerifyRequest) : Set Key → Except Err α → Prop
  | held, .ok _ => held = paymentKeys req
  | _, .error _ => True

theorem sat_releaseClaims :
    (releaseClaims req.auth.nonce.text (computeSignatureHash req.payload.signature.text)).Sat
      keyRules (paymentKeys req) fun _ _ => True := by
  rw [releaseClaims, releaseNonce, releaseSignatureHash, Program.sat_bind', sat_redis_del]
  refine ⟨.inl rfl, ?_⟩
  rintro (error | value) held rfl
  · trivial
  · rw [Program.thenSat_ok, sat_redis_del]
    refine ⟨?_, fun _ _ _ => trivial⟩
    change _ ∈ paymentKeys req \ {_}
    simp [paymentKeys, nonceKey, signatureKey]

theorem sat_claimPayment :
    (claimPayment req.auth.nonce.text (computeSignatureHash req.payload.signature.text)
      requestId).Sat keyRules ∅ (holdsWhenOk req) := by
  rw [claimPayment, claimNonce, claimSignatureHash, releaseNonce, Program.sat_bind',
    sat_redis_setNx]
  refine ⟨trivial, ?_⟩
  rintro (error | claimed) held rfl
  · trivial
  · rw [Program.thenSat_ok]
    cases claimed with
    | false => trivial
    | true =>
        simp only [if_true, Program.sat_bind', sat_redis_setNx]
        refine ⟨trivial, ?_⟩
        rintro (error | claimed) held rfl
        · trivial
        · rw [Program.thenSat_ok]
          cases claimed with
          | true =>
              change insert _ (insert _ ∅) = paymentKeys req
              rw [paymentKeys, Set.pair_comm, insert_empty_eq]
          | false =>
              simp only [Bool.false_eq_true, if_false, Program.sat_bind', sat_redis_del]
              refine ⟨.inl rfl, ?_⟩
              rintro (error | value) held rfl <;> trivial

theorem sat_checkSigner :
    (checkSigner host network asset req (computeSignatureHash req.payload.signature.text)
      requestId).Sat keyRules (paymentKeys req) (holdsWhenOk req) := by
  unfold checkSigner
  have hrelease (error : Err) :
      ((releaseClaims req.auth.nonce.text (computeSignatureHash req.payload.signature.text)).bind
        fun _ => (.throw error : PaymentProgram Unit)).Sat keyRules (paymentKeys req)
          (holdsWhenOk req) := by
    rw [Program.sat_bind]
    refine sat_releaseClaims.mono ?_
    rintro held (_ | _) - <;> trivial
  dsimp only
  split
  · exact hrelease _
  · split
    · exact hrelease _
    · exact rfl

theorem sat_persistVerified {verifiedAt : Nat} :
    (persistVerified host req requestId (computeSignatureHash req.payload.signature.text)
      verifiedAt).Sat keyRules (paymentKeys req) fun held _ => held = paymentKeys req := by
  rw [persistVerified, generateUlid, Program.sat_bind', sat_op]
  refine ⟨trivial, ?_⟩
  rintro (error | verificationId) held rfl
  · rfl
  · rw [Program.thenSat_ok, createVerified, Program.sat_bind', sat_op]
    refine ⟨trivial, ?_⟩
    rintro (error | created) held rfl
    · rfl
    · rw [Program.thenSat_ok]
      split <;> rfl

theorem sat_verifyChecked :
    (verifyChecked host network asset req requestId).Sat keyRules ∅ (holdsWhenOk req) := by
  rw [verifyChecked, dateNow, Program.sat_bind', sat_op]
  refine ⟨trivial, ?_⟩
  rintro (error | nowMs) held rfl
  · trivial
  rw [Program.thenSat_ok, Program.sat_bind', Program.sat_ofExcept]
  cases checkAuthorization req requestId (nowMs / 1000) with
  | error error => trivial
  | ok checked =>
      rw [Program.thenSat_ok, Program.sat_bind']
      refine sat_claimPayment.mono ?_
      rintro held (error | claimed) hheld
      · trivial
      rw [Program.thenSat_ok, Program.sat_bind', show held = paymentKeys req from hheld]
      refine sat_checkSigner.mono ?_
      rintro held (error | signed) hheld
      · trivial
      rw [Program.thenSat_ok, show held = paymentKeys req from hheld, Program.sat_bind', sat_op]
      refine ⟨trivial, ?_⟩
      rintro (error | verifiedAt) held rfl
      · trivial
      rw [Program.thenSat_ok, Program.sat_tryCatch]
      refine sat_persistVerified.mono ?_
      rintro held (error | result) rfl
      · rw [Program.sat_bind']
        refine sat_releaseClaims.mono ?_
        rintro held (_ | _) - <;> trivial
      · rfl

/-- What a call holds when it ends accepted. -/
def holdsWhenAccepted (rawBody : Json) : Set Key → Except Err VerifyResult → Prop
  | held, .ok _ => ∃ req, parseVerifyRequest rawBody = .ok req ∧ held = paymentKeys req
  | _, .error _ => True

theorem sat_verifyPayment (host : Host) (registry : NetworkRegistry) (rawBody : Json) :
    (verifyPayment host registry rawBody).Sat keyRules ∅ (holdsWhenAccepted rawBody) := by
  unfold verifyPayment
  cases hparse : parseVerifyRequest rawBody with
  | error issues => trivial
  | ok req =>
      dsimp only
      rw [verifyParsed, generateUlid, Program.sat_bind', sat_op]
      refine ⟨trivial, ?_⟩
      rintro (error | requestId) held rfl
      · trivial
      rw [Program.thenSat_ok]
      split
      · trivial
      · split
        · trivial
        · refine sat_verifyChecked.mono ?_
          rintro held (error | result) hheld
          · trivial
          · exact ⟨req, hparse, hheld⟩

end Sat

/-! ### Any number of calls -/

section Runs

variable {ι : Type} [DecidableEq ι] {faults : Faults}

/-- Calls of `verifyPayment` on these bodies that have not begun, and a store no call has written
to. -/
structure VerifyStart (host : Host) (registry : NetworkRegistry) (body : ι → Json)
    (cfg : Config (machine ι faults) VerifyResult) : Prop where
  calls : ∀ who, cfg.calls who = verifyPayment host registry (body who)
  history : cfg.history = []
  fresh : ∀ key who, cfg.world.redis key ≠ some (.call who)

/-- The call has returned accepted, for this request. -/
def Accepted (body : ι → Json) (cfg : Config (machine ι faults) VerifyResult) (who : ι)
    (req : VerifyRequest) : Prop :=
  parseVerifyRequest (body who) = .ok req ∧ ∃ result, (cfg.calls who).result? = some (.ok result)

abbrev KeysOwned (cfg : Config (machine ι faults) VerifyResult) (held : ι → Set Key) : Prop :=
  Owned cfg.world.redis held

/-- Every call is at a point of its program where it holds these keys, and the store has them under
its name. -/
abbrev HoldsKeys (body : ι → Json) (cfg : Config (machine ι faults) VerifyResult)
    (held : ι → Set Key) : Prop :=
  Config.Follows (fun _ => keyRules) (fun who => holdsWhenAccepted (body who)) KeysOwned cfg held

theorem preserved_owned (hkeys : faults.keysVanish = false) (body : ι → Json) :
    Config.Preserved (M := machine ι faults) (fun _ => keyRules)
      (fun who => holdsWhenAccepted (body who)) KeysOwned Config.anyStep where
  call := by
    intro cfg held who op next outcome answer world hfollows hcall hallowed hexec _
    cases op with
    | redis command =>
        obtain ⟨⟨fate, hcommand⟩, -⟩ := exec_redis hexec
        exact ⟨_, rfl, hfollows.inv.exec hallowed hcommand⟩
    | _ =>
        refine ⟨held who, rfl, ?_⟩
        rw [Function.update_eq_self]
        change Owned world.redis held
        rw [exec_redis_eq (by simp) hexec]
        exact hfollows.inv
  env := by
    intro cfg held event world hfollows henv
    change Owned world.redis held
    rw [machine_env_redis hkeys henv]
    exact hfollows.inv

theorem keys_owned (hkeys : faults.keysVanish = false) {host : Host} {registry : NetworkRegistry}
    {body : ι → Json} {start cfg : Config (machine ι faults) VerifyResult}
    (hstart : VerifyStart host registry body start)
    (hreach : Config.Reachable Config.anyStep start cfg) :
    ∃ held, HoldsKeys body cfg held := by
  have hbegin : HoldsKeys body start fun _ => ∅ :=
    ⟨fun who => by rw [hstart.calls]; exact sat_verifyPayment host registry (body who),
      fun _ _ hmem => absurd hmem (Set.notMem_empty _)⟩
  exact hreach.follows (preserved_owned hkeys body) hbegin

omit [DecidableEq ι] in
theorem HoldsKeys.of_accepted {body : ι → Json} {cfg : Config (machine ι faults) VerifyResult}
    {held : ι → Set Key} (hfollows : HoldsKeys body cfg held) {who : ι} {req : VerifyRequest}
    (haccepted : Accepted body cfg who req) : held who = paymentKeys req := by
  obtain ⟨hparse, result, hresult⟩ := haccepted
  obtain ⟨req', hparse', hkeys⟩ := hfollows.of_result hresult
  rw [hparse] at hparse'
  obtain rfl := Except.ok.inj hparse'
  exact hkeys

omit [DecidableEq ι] in
/-- Calls that were accepted for one nonce hold one key. -/
theorem HoldsKeys.eq_of_nonce {body : ι → Json} {cfg : Config (machine ι faults) VerifyResult}
    {held : ι → Set Key} (hfollows : HoldsKeys body cfg held) {who other : ι}
    {req req' : VerifyRequest} (hwho : Accepted body cfg who req) (hother : Accepted body cfg other req')
    (hnonce : req.auth.nonce.bytes = req'.auth.nonce.bytes) : who = other := by
  refine hfollows.inv.eq_of_mem (show nonceKey req.auth.nonce.text ∈ held who from ?_) ?_
  · rw [hfollows.of_accepted hwho]
    exact .inl rfl
  · rw [hfollows.of_accepted hother, (nonceKey_eq_iff _ _).mpr hnonce]
    exact .inl rfl

/-- **Accepted once.** However calls of `verifyPayment` interleave and whatever fails, no two of
them are accepted for one nonce or one signature, compared as bytes, and none deletes a claim key of
another. -/
theorem accepted_once (hkeys : faults.keysVanish = false) {host : Host}
    {registry : NetworkRegistry} {body : ι → Json}
    {start cfg : Config (machine ι faults) VerifyResult}
    (hstart : VerifyStart host registry body start)
    (hreach : Config.Reachable Config.anyStep start cfg) :
    (∀ who other req req', Accepted body cfg who req → Accepted body cfg other req' →
      req.auth.nonce.bytes = req'.auth.nonce.bytes → who = other) ∧
    (∀ who other req req', Accepted body cfg who req → Accepted body cfg other req' →
      req.payload.signature.bytes = req'.payload.signature.bytes → who = other) ∧
    ∀ who key next, cfg.calls who = .perform (.redis (.del key)) next →
      ∀ other, cfg.world.redis key = some (.call other) → other = who := by
  obtain ⟨held, hfollows⟩ := keys_owned hkeys hstart hreach
  refine ⟨fun who other req req' hwho hother hnonce => hfollows.eq_of_nonce hwho hother hnonce,
    fun who other req req' hwho hother hsignature => ?_, fun who key next hcall other hholder => ?_⟩
  · refine hfollows.inv.eq_of_mem (show signatureKey
      (computeSignatureHash req.payload.signature.text) ∈ held who from ?_) ?_
    · rw [hfollows.of_accepted hwho]
      exact .inr rfl
    · rw [hfollows.of_accepted hother, (signatureKey_eq_iff _ _).mpr hsignature]
      exact .inr rfl
  · have hmem : key ∈ held who := hfollows.allowed hcall
    have hown := hfollows.inv who key hmem
    rw [hholder] at hown
    exact Holder.call.inj (Option.some.inj hown)

end Runs

/-- Two calls with one nonce in two spellings. -/
def twoSpellingsStart : Config (machine (Fin 2) ⟨false, false⟩) VerifyResult where
  world := emptyWorld _
  calls who := verifyParsed trustingHost baseRegistry (twoSpellings who)
  history := []

/-- Both calls pass the checks; the first takes the nonce and is accepted. -/
def twoSpellingsSchedule (first second : Fin 2) : List (Move (machine (Fin 2) ⟨false, false⟩)) :=
  [.call first (.text "req-0"), .call second (.text "req-1"), .call first (.time 1700000000000),
    .call second (.time 1700000000000), .call first (.fate .done), .call second (.fate .done),
    .call first (.fate .done), .call first (.time 1700000000000), .call first (.text "ver-0"),
    .call first (.fate .done)]

theorem accepted_once_twoSpellings :
    ∃ cfg : Config (machine (Fin 2) ⟨false, false⟩) VerifyResult,
      Accepted (fun who => (twoSpellings who).toJson) cfg 0 (twoSpellings 0) ∧
      ¬Accepted (fun who => (twoSpellings who).toJson) cfg 1 (twoSpellings 1) := by
  have hstart : VerifyStart trustingHost baseRegistry (fun who => (twoSpellings who).toJson)
      twoSpellingsStart :=
    ⟨fun who => (verifyPayment_toJson _ _ _).symm, rfl, by simp [twoSpellingsStart, emptyWorld]⟩
  obtain ⟨cfg, hreach, hreturned⟩ := Config.exists_reachable_of_run
    (show (twoSpellingsStart.run (twoSpellingsSchedule 0 1)).map
      (fun cfg => (cfg.calls 0).result?.any Except.isOk) = some true by decide +kernel)
  have haccepted : Accepted (fun who => (twoSpellings who).toJson) cfg 0 (twoSpellings 0) := by
    refine ⟨parseVerifyRequest_toJson _, ?_⟩
    obtain ⟨outcome, houtcome, hok⟩ := (Option.any_eq_true _ _).mp hreturned
    cases outcome with
    | error error => cases hok
    | ok result => exact ⟨result, houtcome⟩
  refine ⟨cfg, haccepted, fun hother => ?_⟩
  have hbytes : (twoSpellings 0).auth.nonce.bytes = (twoSpellings 1).auth.nonce.bytes := by
    decide +kernel
  exact absurd ((accepted_once rfl hstart hreach).1 0 1 _ _ haccepted hother hbytes) (by decide)

end Payment

end FacilitatorX402
